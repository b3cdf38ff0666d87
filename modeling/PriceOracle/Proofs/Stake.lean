import Mathlib.Order.Bounds.Basic
import PriceOracle.Proofs.Calendar
import PriceOracle.Proofs.Json.Numeral
import PriceOracle.Stake

/-!
# PriceOracle.Proofs.Stake

What the owner of a locked stake is told. The stake can be withdrawn when a week has passed since
the first midnight that is not before its request. The notice says whether more than that has
passed, and how far away the instant is.

* `Calendar.duration_eq`: the text of a length of time is that of a span, which is the length
  itself below an hour and its whole minutes from then on.
* `Notice.text_injective`: no two notices read alike.
* `notice_account`: the notice for every request and every instant.
-/

namespace PriceOracle

namespace Calendar

/-- A length of time in units, the largest first. -/
inductive Span where
  | days (days hours minutes : Nat)
  | hours (hours minutes : Nat)
  | minutes (minutes seconds : Nat)
  deriving Repr, DecidableEq

namespace Span

def text : Span → String
  | .days d h m => s!"{d}d {h}h {m}m"
  | .hours h m => s!"{h}h {m}m"
  | .minutes m s => s!"{m}m {s}s"

/-- How long it is. -/
def seconds : Span → Nat
  | .days d h m => 86400 * d + 3600 * h + 60 * m
  | .hours h m => 3600 * h + 60 * m
  | .minutes m s => 60 * m + s

/-- No unit makes up a larger one, and days and hours do not stand in front when there are none. -/
def IsProper : Span → Prop
  | .days d h m => 0 < d ∧ h < 24 ∧ m < 60
  | .hours h m => 0 < h ∧ h < 24 ∧ m < 60
  | .minutes m s => m < 60 ∧ s < 60

theorem toList_text (s : Span) : s.text.toList =
    match s with
    | .days d h m => Nat.toDigits 10 d ++ 'd' :: ' ' :: (Nat.toDigits 10 h ++ 'h' :: ' ' ::
        (Nat.toDigits 10 m ++ ['m']))
    | .hours h m => Nat.toDigits 10 h ++ 'h' :: ' ' :: (Nat.toDigits 10 m ++ ['m'])
    | .minutes m s => Nat.toDigits 10 m ++ 'm' :: ' ' :: (Nat.toDigits 10 s ++ ['s']) := by
  cases s <;>
    simp only [text, String.toList_append, Nat.toString_eq_repr, Nat.toList_repr,
      List.append_assoc] <;>
    rfl

theorem text_injective : Function.Injective text := by
  intro s t h
  have hlist := congrArg String.toList h
  rw [toList_text, toList_text] at hlist
  cases s <;> cases t <;> simp [Decimal.toDigits_append_inj, Decimal.toDigits_inj] at hlist ⊢
  all_goals exact hlist

end Span

/-- What is told of a length of time: all of it below an hour, and its whole minutes from then
on. -/
def told (seconds : Nat) : Nat := if seconds < 3600 then seconds else seconds / 60 * 60

theorem duration_eq (n : Nat) :
    ∃ s : Span, duration n = s.text ∧ s.IsProper ∧ s.seconds = told n := by
  have hdays : (n : Int).tdiv secondsPerDay = (n / 86400 : Nat) := rfl
  have hhours : ((n : Int).tmod secondsPerDay).tdiv 3600 = (n % 86400 / 3600 : Nat) := rfl
  have hminutes : ((n : Int).tmod 3600).tdiv 60 = (n % 3600 / 60 : Nat) := rfl
  have hseconds : (n : Int).tmod 60 = (n % 60 : Nat) := rfl
  simp only [duration, hdays, hhours, hminutes, hseconds, Int.natCast_pos]
  split
  · next hd =>
    refine ⟨.days (n / 86400) (n % 86400 / 3600) (n % 3600 / 60), rfl, ⟨hd, ?_, ?_⟩, ?_⟩
    · omega
    · omega
    · rw [Span.seconds, told, if_neg (by omega)]
      omega
  split
  · next hd hh =>
    refine ⟨.hours (n % 86400 / 3600) (n % 3600 / 60), rfl, ⟨hh, ?_, ?_⟩, ?_⟩
    · omega
    · omega
    · rw [Span.seconds, told, if_neg (by omega)]
      omega
  · next hd hh =>
    refine ⟨.minutes (n % 3600 / 60) (n % 60), rfl, ⟨?_, ?_⟩, ?_⟩
    · omega
    · omega
    · rw [Span.seconds, told, if_pos (by omega)]
      omega

end Calendar

namespace Stake

open Calendar

/-- What is told of a locked stake: whether its time is past, and how far away it is. -/
structure Notice where
  isPast : Bool
  span : Span
  deriving Repr, DecidableEq

namespace Notice

def text (n : Notice) : String :=
  if n.isPast then "Stake has been eligible to withdraw for " ++ n.span.text
  else "Stake will be eligible to withdraw in " ++ n.span.text

theorem text_injective : Function.Injective text := by
  rintro ⟨past, s⟩ ⟨past', t⟩ h
  have hlist := congrArg String.toList h
  cases past <;> cases past' <;> simp [text] at hlist ⊢
  all_goals exact Span.text_injective (String.toList_inj.1 hlist)

end Notice

/-- What a notice at the instant `now` is to say of a stake that is eligible from then on. -/
structure Notice.Tells (n : Notice) (eligible now : Int) : Prop where
  isPast : n.isPast = true ↔ eligible < now
  isProper : n.span.IsProper
  seconds : n.span.seconds = told (now - eligible).natAbs

/-- The numbers on the way from a request to the time that is told, in order. -/
def numbers (start now : Int) : List Int :=
  [start + secondsPerDay, start + secondsPerDay - 1,
    (start + secondsPerDay - 1).tdiv secondsPerDay, nextMidnight start, now - nextMidnight start,
    now - nextMidnight start - withdrawDelay, -(now - nextMidnight start - withdrawDelay)]

theorem code_of_locked {code : Nat} (h : Status.ofCode? code = some .lockedForWithdraw) :
    code = 2 := by
  match code with
  | 2 => rfl
  | 0 | 1 | 3 | _ + 4 => simp [Status.ofCode?] at h

theorem tdiv_eq {start : Int} (hstart : 0 ≤ start) :
    (start + secondsPerDay - 1).tdiv secondsPerDay = (start + 86399) / 86400 := by
  rw [secondsPerDay, Int.tdiv_eq_ediv_of_nonneg (by omega), Int.add_sub_assoc]
  rfl

theorem nextMidnight_eq {start : Int} (hstart : 0 ≤ start) :
    nextMidnight start = (start + 86399) / 86400 * 86400 := by
  rw [nextMidnight, tdiv_eq hstart, secondsPerDay]

theorem isLeast_nextMidnight {start : Int} (hstart : 0 ≤ start) :
    IsLeast {t : Int | 86400 ∣ t ∧ start ≤ t} (nextMidnight start) := by
  rw [nextMidnight_eq hstart]
  refine ⟨⟨⟨_, mul_comm _ _⟩, by omega⟩, ?_⟩
  rintro t ⟨⟨k, rfl⟩, hle⟩
  omega

theorem isSigned64_of_mem_numbers {start now x : Int} (hstart : 0 ≤ start) (hlt : start < 2 ^ 62)
    (hnow : inRange now = true) (hx : x ∈ numbers start now) : IsSigned64 x := by
  obtain ⟨hearliest, hlatest⟩ : earliest ≤ now ∧ now ≤ latest := by
    simpa only [inRange, Bool.and_eq_true, decide_eq_true_eq] using hnow
  rw [numbers, tdiv_eq hstart, nextMidnight_eq hstart] at hx
  simp only [withdrawDelay, secondsPerDay, List.mem_cons, List.not_mem_nil, or_false] at hx
  unfold earliest at hearliest
  unfold latest at hlatest
  unfold IsSigned64
  obtain rfl | rfl | rfl | rfl | rfl | rfl | rfl := hx <;> omega

/-- A request before `2 ^ 63` is read as it is, not as a negative number. -/
theorem exists_notice {start : Nat} (hstart : start < 2 ^ 63) (now : Int) :
    ∃ n : Notice, describe ⟨2, start⟩ now = n.text ∧
      n.Tells (nextMidnight start + withdrawDelay) now := by
  obtain ⟨s, htext, hproper, hseconds⟩ :=
    duration_eq (now - (nextMidnight start + withdrawDelay)).natAbs
  simp only [describe, signed64_eq_self hstart]
  split
  · next hpast =>
    refine ⟨⟨true, s⟩, ?_, ⟨by simp; omega, hproper, hseconds⟩⟩
    rw [Notice.text, if_pos rfl, ← htext]
    congr 2
    omega
  · next hpast =>
    refine ⟨⟨false, s⟩, ?_, ⟨by simp; omega, hproper, hseconds⟩⟩
    rw [Notice.text, if_neg Bool.false_ne_true, ← htext]
    congr 2
    omega

/-- The owner of a locked stake is told in one of the two sentences whether a week has passed since
the first midnight that is not before the request, and how far away that instant is: to the second
below an hour, in whole minutes from then on. All numbers on the way fit 64 bits. -/
theorem notice_account {info : Info} {now : Int}
    (hlocked : Status.ofCode? info.status = some .lockedForWithdraw)
    (hstart : info.startTime < 2 ^ 62) (hnow : inRange now = true) :
    ∃ midnight : Int, IsLeast {t : Int | 86400 ∣ t ∧ (info.startTime : Int) ≤ t} midnight ∧
      (∃ n : Notice, describe info now = n.text ∧ n.Tells (midnight + 604800) now ∧
        ∀ other : Notice, describe info now = other.text → other = n) ∧
      ∀ x ∈ numbers info.startTime now, IsSigned64 x := by
  obtain ⟨status, start⟩ := info
  obtain rfl : status = 2 := code_of_locked hlocked
  replace hstart : start < 2 ^ 62 := hstart
  have hlt : (start : Int) < 2 ^ 62 := by omega
  obtain ⟨n, htext, htells⟩ := exists_notice (show start < 2 ^ 63 by omega) now
  refine ⟨nextMidnight start, isLeast_nextMidnight (by omega), ⟨n, htext, htells, ?_⟩, ?_⟩
  · intro other hother
    exact Notice.text_injective (hother.symm.trans htext)
  · intro x hx
    exact isSigned64_of_mem_numbers (Int.natCast_nonneg start) hlt hnow hx

/-- A request at midnight, an hour after its stake is eligible. -/
theorem notice_account_hour :
    Status.ofCode? 2 = some .lockedForWithdraw ∧ 864000 < 2 ^ 62 ∧ inRange 1472400 = true ∧
      IsLeast {t : Int | 86400 ∣ t ∧ 864000 ≤ t} 864000 ∧
      describe ⟨2, 864000⟩ 1472400 = Notice.text ⟨true, .hours 1 0⟩ ∧
      Notice.Tells ⟨true, .hours 1 0⟩ (864000 + 604800) 1472400 := by
  have hlocked : Status.ofCode? (Info.mk 2 864000).status = some .lockedForWithdraw := rfl
  obtain ⟨midnight, hleast, ⟨n, htext, htells, honly⟩, -⟩ :=
    notice_account hlocked (by decide) (show inRange 1472400 = true by decide)
  have hmidnight : midnight = 864000 := hleast.unique ⟨⟨by decide, by decide⟩, fun t ht => ht.2⟩
  have hnotice : ⟨true, .hours 1 0⟩ = n := honly ⟨true, .hours 1 0⟩ (by decide)
  subst hmidnight hnotice
  exact ⟨hlocked, by decide, by decide, hleast, htext, htells⟩

end Stake
end PriceOracle
