import PriceOracle.Text.Hex

/-!
# PriceOracle.Word

The 256-bit word of the contract machine. Amounts, difficulties, record values, challenges and
log topics are all words; an account address is the low 160 bits of one. A word travels as 32
bytes, the high byte first, and `ofBytes_toBytes` says that it survives the trip.
-/

namespace PriceOracle

abbrev Word := BitVec 256

abbrev Address := BitVec 160

/-- The number whose base-256 digits are `bytes`, the highest first. -/
def natOfBytes (bytes : Bytes) : Nat := bytes.foldl (fun n b => n * 256 + b.toNat) 0

/-- The low `width` bytes of a number, the highest first. -/
def bytesOfNat : (width : Nat) → Nat → Bytes
  | 0, _ => []
  | width + 1, n => bytesOfNat width (n / 256) ++ [UInt8.ofNat (n % 256)]

namespace Word

def greatest : Word := BitVec.allOnes 256

def ofNat? (n : Nat) : Option Word := if n < Nat.pow 2 256 then some (BitVec.ofNat 256 n) else none

/-- The word of a number, or the greatest word when it does not fit. -/
def saturating (n : Nat) : Word := (ofNat? n).getD greatest

/-- A word in 64 bits: the greatest such number when it does not fit. -/
def capped64 (w : Word) : Nat := min w.toNat (Nat.pow 2 64 - 1)

def ofBytes (bytes : Bytes) : Word := BitVec.ofNat 256 (natOfBytes bytes)

def toBytes (w : Word) : Bytes := bytesOfNat 32 w.toNat

def toHex (w : Word) : String := Hex.encode w.toBytes

def toDecimal (w : Word) : String := toString w.toNat

/-- The account in the low 20 bytes of a word. -/
def toAddress (w : Word) : Address := w.setWidth 160

end Word

namespace Address

def toBytes (a : Address) : Bytes := bytesOfNat 20 a.toNat

def ofBytes (bytes : Bytes) : Address := BitVec.ofNat 160 (natOfBytes bytes)

/-- All 40 hexadecimal digits in lower case after the mark `0x`. -/
def toHex (a : Address) : String := "0x" ++ Hex.encode a.toBytes

/-- The word whose low 20 bytes are the address. -/
def toWord (a : Address) : Word := a.setWidth 256

end Address

theorem length_bytesOfNat (width n : Nat) : (bytesOfNat width n).length = width := by
  induction width generalizing n with
  | zero => rfl
  | succ w ih => simp [bytesOfNat, ih]

theorem Word.length_toBytes (w : Word) : w.toBytes.length = 32 := length_bytesOfNat 32 _

theorem Address.length_toBytes (a : Address) : a.toBytes.length = 20 := length_bytesOfNat 20 _

theorem natOfBytes_append (front : Bytes) (b : UInt8) :
    natOfBytes (front ++ [b]) = natOfBytes front * 256 + b.toNat := by
  simp [natOfBytes, List.foldl_append]

theorem natOfBytes_bytesOfNat (width n : Nat) :
    natOfBytes (bytesOfNat width n) = n % Nat.pow 256 width := by
  induction width generalizing n with
  | zero => simp [bytesOfNat, natOfBytes, Nat.mod_one]
  | succ w ih =>
    rw [bytesOfNat, natOfBytes_append, ih]
    have : (UInt8.ofNat (n % 256)).toNat = n % 256 := by simp
    have power : Nat.pow 256 (w + 1) = 256 * Nat.pow 256 w := Nat.pow_succ'
    rw [this, power, Nat.mod_mul]
    omega

theorem Word.ofBytes_toBytes (w : Word) : Word.ofBytes w.toBytes = w := by
  apply BitVec.eq_of_toNat_eq
  simp only [Word.ofBytes, Word.toBytes, natOfBytes_bytesOfNat, BitVec.toNat_ofNat, Nat.pow_eq]
  have := w.isLt
  omega

theorem Address.ofBytes_toBytes (a : Address) : Address.ofBytes a.toBytes = a := by
  apply BitVec.eq_of_toNat_eq
  simp only [Address.ofBytes, Address.toBytes, natOfBytes_bytesOfNat, BitVec.toNat_ofNat,
    Nat.pow_eq]
  have := a.isLt
  omega

end PriceOracle
