import CycleTable.Numeral
import Mathlib.Tactic.IntervalCases

/-! # Reading written numerals

The shortest numeral of a number reads back as that number, in base ten and in base sixteen.
Any run of digits reads as its value, or is too large; nothing else can be wrong with it. Any other
text is refused for the first thing that is wrong with it, from the left.
-/
namespace CycleTable.Numeral

def IsRun (digit : Char → Bool) (cs : List Char) : Prop := cs ≠ [] ∧ ∀ c ∈ cs, digit c

theorem isRun_singleton {digit : Char → Bool} {c : Char} (h : digit c) : IsRun digit [c] :=
  ⟨List.cons_ne_nil c [], by simpa using h⟩

def isDigitOf (base : Nat) (c : Char) : Bool := (digitValue? base c).isSome

theorem digitValue?_digitChar {base n : Nat} (hb : base ≤ 16) (hn : n < base) :
    digitValue? base n.digitChar = some n := by
  have hn' : n < 16 := by omega
  interval_cases n <;> simp [digitValue?, Nat.digitChar, hn]

theorem isDigit_iff {c : Char} : isDigit c ↔ 0x30 ≤ c.toNat ∧ c.toNat ≤ 0x39 := by
  unfold isDigit digitValue?
  by_cases hc : 0x30 ≤ c.toNat ∧ c.toNat ≤ 0x39
  · have hlt : c.toNat - 0x30 < 10 := by omega
    simp [hc, hlt]
  · -- Letters count from ten on, which is the base.
    have hnot : ∀ n, ¬ n + 10 < 10 := by omega
    simp only [hc, iff_false, if_false]
    split_ifs with h₁ h₂ <;> simp_all

theorem digitValue?_plus (base : Nat) : digitValue? base '+' = none := by
  simp [digitValue?]

def valueFrom (base n : Nat) (cs : List Char) : Nat :=
  cs.foldl (fun n c => n * base + (digitValue? base c).getD 0) n

@[simp] theorem valueFrom_cons (base n : Nat) (c : Char) (cs : List Char) :
    valueFrom base n (c :: cs) = valueFrom base (n * base + (digitValue? base c).getD 0) cs := rfl

theorem le_valueFrom {base : Nat} (hb : 0 < base) (n : Nat) (cs : List Char) :
    n ≤ valueFrom base n cs := by
  induction cs generalizing n with
  | nil => exact Nat.le_refl n
  | cons c cs ih =>
    have hn : n ≤ n * base := Nat.le_mul_of_pos_right n hb
    have := ih (n * base + (digitValue? base c).getD 0)
    rw [valueFrom_cons]
    omega

theorem value_concat (base : Nat) (cs : List Char) (c : Char) :
    value base (cs ++ [c]) = value base cs * base + (digitValue? base c).getD 0 := by
  simp [value, List.foldl_append]

theorem value_toDigits {base : Nat} (hb : 1 < base) (hb' : base ≤ 16) (n : Nat) :
    value base (Nat.toDigits base n) = n := by
  induction n using Nat.strongRecOn with
  | ind n ih =>
    rw [Nat.toDigits_eq_if hb]
    split
    next hn => simp [value, digitValue?_digitChar hb' hn]
    next hn =>
      have hm : n % base < base := Nat.mod_lt n (by omega)
      rw [value_concat, ih (n / base) (Nat.div_lt_self (by omega) hb),
        digitValue?_digitChar hb' hm, Option.getD_some]
      exact Nat.div_add_mod' n base

theorem isRun_toDigits {base : Nat} (hb : 1 < base) (hb' : base ≤ 16) (n : Nat) :
    IsRun (isDigitOf base) (Nat.toDigits base n) := by
  refine ⟨Nat.toDigits_ne_nil, ?_⟩
  induction n using Nat.strongRecOn with
  | ind n ih =>
    rw [Nat.toDigits_eq_if hb]
    split
    next hn => simp [isDigitOf, digitValue?_digitChar hb' hn]
    next hn =>
      intro c hc
      rcases List.mem_append.1 hc with hc | hc
      · exact ih (n / base) (Nat.div_lt_self (by omega) hb) c hc
      · have hm : n % base < base := Nat.mod_lt n (by omega)
        rw [List.mem_singleton.1 hc]
        simp [isDigitOf, digitValue?_digitChar hb' hm]

theorem isRun_decimal (n : Nat) : IsRun isDigit (decimal n) :=
  isRun_toDigits (by decide) (by decide) n

theorem isRun_hex (n : Nat) : IsRun isHexDigit (hex n) :=
  isRun_toDigits (by decide) (by decide) n

theorem readDigits_append {base n : Nat} {digits : List Char} (hb : 0 < base)
    (hn : n < UInt32.size) (hdigits : ∀ c ∈ digits, isDigitOf base c) (rest : List Char) :
    readDigits base n (digits ++ rest) =
      if valueFrom base n digits < UInt32.size then
        readDigits base (valueFrom base n digits) rest
      else .error .posOverflow := by
  induction digits generalizing n with
  | nil => simp [valueFrom, hn]
  | cons c digits ih =>
    obtain ⟨d, hd⟩ := Option.isSome_iff_exists.1 (hdigits c List.mem_cons_self)
    simp only [List.cons_append, readDigits, hd, valueFrom_cons, Option.getD_some]
    split
    next hlt => exact ih hlt fun x hx => hdigits x (List.mem_cons_of_mem c hx)
    next hge =>
      have := le_valueFrom hb (n * base + d) digits
      rw [if_neg (by omega)]

theorem readDigits_eq {base n : Nat} {cs : List Char} (hb : 0 < base) (hn : n < UInt32.size)
    (hcs : ∀ c ∈ cs, isDigitOf base c) :
    readDigits base n cs =
      if valueFrom base n cs < UInt32.size then .ok (UInt32.ofNat (valueFrom base n cs))
      else .error .posOverflow := by
  have happend := readDigits_append hb hn hcs []
  rwa [List.append_nil] at happend

theorem read_eq_of_isRun {base : Nat} {cs : List Char} (hb : 0 < base)
    (hcs : IsRun (isDigitOf base) cs) :
    read base cs =
      if value base cs < UInt32.size then .ok (UInt32.ofNat (value base cs))
      else .error .posOverflow := by
  have hd := readDigits_eq hb (by decide : 0 < UInt32.size) hcs.2
  unfold read
  split
  next => exact absurd rfl hcs.1
  next => simpa [isDigitOf, digitValue?_plus] using hcs.2 '+' List.mem_cons_self
  next => simpa [isDigitOf, digitValue?_plus] using hcs.2 '+' List.mem_cons_self
  next => exact hd

theorem isDigitOf_of_readDigits {base n : Nat} {cs : List Char} {v : UInt32}
    (h : readDigits base n cs = .ok v) : ∀ c ∈ cs, isDigitOf base c := by
  induction cs generalizing n with
  | nil => simp
  | cons c cs ih =>
    unfold readDigits at h
    split at h
    next => cases h
    next d hd =>
      dsimp only at h
      split at h
      next => exact List.forall_mem_cons.2 ⟨by simp [isDigitOf, hd], ih h⟩
      next => cases h

theorem readDigits_eq_ok_iff {base n : Nat} {cs : List Char} {v : UInt32} (hb : 0 < base)
    (hn : n < UInt32.size) :
    readDigits base n cs = .ok v ↔
      (∀ c ∈ cs, isDigitOf base c) ∧ valueFrom base n cs = v.toNat := by
  constructor
  · intro h
    have hcs := isDigitOf_of_readDigits h
    rw [readDigits_eq hb hn hcs] at h
    split at h
    next hlt =>
      cases h
      exact ⟨hcs, (UInt32.toNat_ofNat_of_lt' hlt).symm⟩
    next => cases h
  · rintro ⟨hcs, hvalue⟩
    rw [readDigits_eq hb hn hcs, hvalue, if_pos v.toNat_lt_size, UInt32.ofNat_toNat]

/-- A numeral reads as a number exactly if it is a run of digits with that value, perhaps behind
a plus sign. -/
theorem read_eq_ok_iff {base : Nat} {cs : List Char} {v : UInt32} (hb : 0 < base) :
    read base cs = .ok v ↔
      ∃ sign digits, (sign = [] ∨ sign = ['+']) ∧ IsRun (isDigitOf base) digits ∧
        value base digits = v.toNat ∧ cs = sign ++ digits := by
  have hzero : 0 < UInt32.size := by decide
  constructor
  · intro h
    unfold read at h
    split at h
    next => cases h
    next => cases h
    next digits hne =>
      obtain ⟨hdigits, hvalue⟩ := (readDigits_eq_ok_iff hb hzero).1 h
      refine ⟨['+'], digits, Or.inr rfl, ⟨?_, hdigits⟩, hvalue, rfl⟩
      rintro rfl
      exact hne rfl
    next hne _ _ =>
      obtain ⟨hdigits, hvalue⟩ := (readDigits_eq_ok_iff hb hzero).1 h
      exact ⟨[], cs, Or.inl rfl, ⟨hne, hdigits⟩, hvalue, rfl⟩
  · rintro ⟨sign, digits, rfl | rfl, hrun, hvalue, rfl⟩
    · rw [read_eq_of_isRun hb hrun, hvalue, if_pos v.toNat_lt_size, UInt32.ofNat_toNat]
    · obtain ⟨c, cs, rfl⟩ := List.exists_cons_of_ne_nil hrun.1
      exact (readDigits_eq_ok_iff hb hzero).2 ⟨hrun.2, hvalue⟩

/-- A text with its sign taken off, if it has one. -/
inductive Unsigned : List Char → List Char → Prop
  | plus (cs : List Char) : Unsigned ('+' :: cs) cs
  | none {cs : List Char} (h : '+' ∉ cs.head?) : Unsigned cs cs

/-- What is wrong with a text that is no numeral in range. Its characters are looked at from the
left, and the first of them that is no digit, or at which the value is too large, decides. -/
inductive Wrong (base : Nat) : NumeralError → List Char → Prop
  | empty : Wrong base .empty []
  | sign : Wrong base .invalidDigit ['+']
  | invalidDigit {cs digits rest : List Char} {c : Char}
    (hcs : Unsigned cs (digits ++ c :: rest)) (hdigits : ∀ d ∈ digits, isDigitOf base d)
    (hvalue : value base digits < UInt32.size) (hc : isDigitOf base c = false) :
    Wrong base .invalidDigit cs
  | posOverflow {cs digits rest : List Char} (hcs : Unsigned cs (digits ++ rest))
    (hdigits : ∀ d ∈ digits, isDigitOf base d) (hvalue : UInt32.size ≤ value base digits) :
    Wrong base .posOverflow cs

theorem exists_digits (base : Nat) (cs : List Char) :
    ∃ digits rest, cs = digits ++ rest ∧ (∀ d ∈ digits, isDigitOf base d) ∧
      (rest = [] ∨ ∃ c behind, rest = c :: behind ∧ isDigitOf base c = false) := by
  refine ⟨cs.takeWhile (isDigitOf base), cs.dropWhile (isDigitOf base),
    List.takeWhile_append_dropWhile.symm, ?_, ?_⟩
  · intro d hd
    exact List.all_eq_true.1 List.all_takeWhile d hd
  · by_cases hnil : cs.dropWhile (isDigitOf base) = []
    · exact Or.inl hnil
    · have hhead := List.head_dropWhile_not (isDigitOf base) hnil
      exact Or.inr ⟨_, _, (List.cons_head_tail hnil).symm, by simpa using hhead⟩

theorem readDigits_cons_of_not_isDigitOf {base : Nat} {c : Char} (hc : isDigitOf base c = false)
    (n : Nat) (cs : List Char) : readDigits base n (c :: cs) = .error .invalidDigit := by
  have hnone : digitValue? base c = none := by simpa [isDigitOf] using hc
  simp only [readDigits, hnone]

theorem readDigits_eq_error_iff {base : Nat} {cs : List Char} {e : NumeralError} (hb : 0 < base) :
    readDigits base 0 cs = .error e ↔
      ∃ digits rest, cs = digits ++ rest ∧ (∀ d ∈ digits, isDigitOf base d) ∧
        (e = .posOverflow ∧ UInt32.size ≤ value base digits ∨
          e = .invalidDigit ∧ value base digits < UInt32.size ∧
            ∃ c behind, rest = c :: behind ∧ isDigitOf base c = false) := by
  have hvalue : ∀ digits, valueFrom base 0 digits = value base digits := fun _ => rfl
  have hzero : 0 < UInt32.size := by decide
  constructor
  · intro h
    obtain ⟨digits, rest, rfl, hdigits, hrest⟩ := exists_digits base cs
    refine ⟨digits, rest, rfl, hdigits, ?_⟩
    rw [readDigits_append hb hzero hdigits, hvalue] at h
    split at h
    next hlt =>
      rcases hrest with rfl | ⟨c, behind, rfl, hc⟩
      · cases h
      · rw [readDigits_cons_of_not_isDigitOf hc] at h
        exact Or.inr ⟨(Except.error.inj h).symm, hlt, c, behind, rfl, hc⟩
    next hge => exact Or.inl ⟨(Except.error.inj h).symm, Nat.not_lt.1 hge⟩
  · rintro ⟨digits, rest, rfl, hdigits, ⟨rfl, hge⟩ | ⟨rfl, hlt, c, behind, rfl, hc⟩⟩
    · rw [readDigits_append hb hzero hdigits, hvalue, if_neg (Nat.not_lt.2 hge)]
    · rw [readDigits_append hb hzero hdigits, hvalue, if_pos hlt,
        readDigits_cons_of_not_isDigitOf hc]

theorem Unsigned.read_eq {base : Nat} {cs body : List Char} (h : Unsigned cs body)
    (hbody : body ≠ []) : read base cs = readDigits base 0 body := by
  cases h with
  | plus cs =>
    obtain ⟨c, cs, rfl⟩ := List.exists_cons_of_ne_nil hbody
    rfl
  | none h =>
    unfold read
    split
    · exact absurd rfl hbody
    · simp at h
    · simp at h
    · rfl

theorem exists_unsigned (cs : List Char) : ∃ body, Unsigned cs body := by
  by_cases h : '+' ∈ cs.head?
  · obtain ⟨rest, rfl⟩ := List.head?_eq_some_iff.1 h
    exact ⟨rest, .plus rest⟩
  · exact ⟨cs, .none h⟩

theorem Wrong.read_eq {base : Nat} {cs : List Char} {e : NumeralError} (hb : 0 < base)
    (h : Wrong base e cs) : read base cs = .error e := by
  cases h with
  | empty => rfl
  | sign => rfl
  | invalidDigit hcs hdigits hvalue hc =>
    rw [hcs.read_eq (by simp), readDigits_eq_error_iff hb]
    exact ⟨_, _, rfl, hdigits, Or.inr ⟨rfl, hvalue, _, _, rfl, hc⟩⟩
  | @posOverflow _ digits rest hcs hdigits hvalue =>
    have hne : digits ++ rest ≠ [] := by
      intro hnil
      rw [(List.append_eq_nil_iff.1 hnil).1] at hvalue
      exact absurd hvalue (by simp [value, UInt32.size])
    rw [hcs.read_eq hne, readDigits_eq_error_iff hb]
    exact ⟨_, _, rfl, hdigits, Or.inl ⟨rfl, hvalue⟩⟩

/-- A text is refused as a numeral exactly for what is wrong with it. -/
theorem read_eq_error_iff {base : Nat} {cs : List Char} {e : NumeralError} (hb : 0 < base) :
    read base cs = .error e ↔ Wrong base e cs := by
  refine ⟨fun h => ?_, Wrong.read_eq hb⟩
  obtain ⟨body, hbody⟩ := exists_unsigned cs
  by_cases hnil : body = []
  · subst hnil
    cases hbody with
    | plus =>
      obtain rfl := Except.error.inj h
      exact .sign
    | none =>
      obtain rfl := Except.error.inj h
      exact .empty
  · rw [hbody.read_eq hnil, readDigits_eq_error_iff hb] at h
    obtain ⟨digits, rest, rfl, hdigits, ⟨rfl, hge⟩ | ⟨rfl, hlt, c, behind, rfl, hc⟩⟩ := h
    · exact .posOverflow hbody hdigits hge
    · exact .invalidDigit hbody hdigits hlt hc

theorem read_toDigits {base : Nat} (hb : 1 < base) (hb' : base ≤ 16) (n : UInt32) :
    read base (Nat.toDigits base n.toNat) = .ok n := by
  rw [read_eq_of_isRun (by omega) (isRun_toDigits hb hb' n.toNat), value_toDigits hb hb',
    if_pos n.toNat_lt_size, UInt32.ofNat_toNat]

@[simp] theorem read_decimal (n : UInt32) : read 10 (decimal n.toNat) = .ok n :=
  read_toDigits (by decide) (by decide) n

@[simp] theorem read_hex (n : UInt32) : read 16 (hex n.toNat) = .ok n :=
  read_toDigits (by decide) (by decide) n

end CycleTable.Numeral
