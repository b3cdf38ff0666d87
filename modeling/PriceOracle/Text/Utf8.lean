/-!
# PriceOracle.Text.Utf8

Text as bytes. `encode` writes the UTF-8 form of a string, `decode` reads one back or says where
and how the bytes stop being UTF-8, and `lossy` reads any bytes at all, putting a replacement
character where a sequence is broken.

`next` is the whole rule: it looks at the bytes in front and finds a character, a broken sequence
with its length, or a sequence that the end of the input cuts short.
-/

namespace PriceOracle

/-- A record, a message or a log payload: plain bytes. -/
abbrev Bytes := List UInt8

namespace Utf8

def encode (s : String) : Bytes := s.toList.flatMap String.utf8EncodeChar

/-- What stands in front of a byte string. -/
inductive Next where
  /-- A character, and how many bytes follow its first one. -/
  | char (c : Char) (tail : Nat)
  /-- A sequence that is broken after `width` bytes. -/
  | broken (width : Nat)
  /-- A sequence that is right so far, but the input ends inside it. -/
  | cut

def continues (b : UInt8) : Bool := 0x80 ≤ b && b ≤ 0xBF

/-- The payload of a continuation byte. -/
def low (b : UInt8) : Nat := b.toNat % 64

/-- Second bytes that keep a three-byte sequence free of overlong forms and surrogates. -/
def second3 (b c : UInt8) : Bool :=
  if b == 0xE0 then 0xA0 ≤ c && c ≤ 0xBF
  else if b == 0xED then 0x80 ≤ c && c ≤ 0x9F
  else continues c

/-- Second bytes that keep a four-byte sequence free of overlong forms and inside Unicode. -/
def second4 (b c : UInt8) : Bool :=
  if b == 0xF0 then 0x90 ≤ c && c ≤ 0xBF
  else if b == 0xF4 then 0x80 ≤ c && c ≤ 0x8F
  else continues c

/-- The character, break or cut that starts with the byte `b`. -/
def next (b : UInt8) (rest : Bytes) : Next :=
  if b < 0x80 then .char (Char.ofNat b.toNat) 0
  else if b < 0xC2 then .broken 1
  else if b < 0xE0 then
    match rest with
    | [] => .cut
    | c :: _ =>
      if continues c then .char (Char.ofNat (b.toNat % 32 * 64 + low c)) 1 else .broken 1
  else if b < 0xF0 then
    match rest with
    | [] => .cut
    | c :: rest =>
      if second3 b c then
        match rest with
        | [] => .cut
        | d :: _ =>
          if continues d then .char (Char.ofNat ((b.toNat % 16 * 64 + low c) * 64 + low d)) 2
          else .broken 2
      else .broken 1
  else if b < 0xF5 then
    match rest with
    | [] => .cut
    | c :: rest =>
      if second4 b c then
        match rest with
        | [] => .cut
        | d :: rest =>
          if continues d then
            match rest with
            | [] => .cut
            | e :: _ =>
              if continues e then
                .char (Char.ofNat (((b.toNat % 8 * 64 + low c) * 64 + low d) * 64 + low e)) 3
              else .broken 3
          else .broken 2
      else .broken 1
  else .broken 1

/-- Why bytes are no text, with the index of the first byte that is not part of one. -/
inductive Fault where
  | broken (width index : Nat)
  | cut (index : Nat)
  deriving Repr, DecidableEq

def Fault.message : Fault → String
  | .broken width index => s!"invalid utf-8 sequence of {width} bytes from index {index}"
  | .cut index => s!"incomplete utf-8 byte sequence from index {index}"

/-- The characters of `bytes`, whose first byte has the given index in the whole input. -/
def decodeFrom (index : Nat) (bytes : Bytes) : Except Fault (List Char) :=
  match bytes with
  | [] => .ok []
  | b :: rest =>
    match next b rest with
    | .cut => .error (.cut index)
    | .broken width => .error (.broken width index)
    | .char c tail => (decodeFrom (index + 1 + tail) (rest.drop tail)).map (c :: ·)
termination_by bytes.length
decreasing_by simp only [List.length_cons, List.length_drop]; omega

def decode (bytes : Bytes) : Except Fault String :=
  (decodeFrom 0 bytes).map String.ofList

/-- The characters of `bytes`, with `repair` in the place of each broken sequence. -/
def charsWith (repair : List Char) (bytes : Bytes) : List Char :=
  match bytes with
  | [] => []
  | b :: rest =>
    match next b rest with
    | .cut => repair
    | .broken width => repair ++ charsWith repair (rest.drop (width - 1))
    | .char c tail => c :: charsWith repair (rest.drop tail)
termination_by bytes.length
decreasing_by all_goals (simp only [List.length_cons, List.length_drop]; omega)

/-- Read any bytes as text, with U+FFFD in the place of what is broken. -/
def lossy (bytes : Bytes) : String := String.ofList (charsWith ['\uFFFD'] bytes)

end Utf8
end PriceOracle
