import ScanProvisioning.Text.Blank
import ScanProvisioning.Text.Decimal
import Mathlib.Data.List.TakeDrop
import Mathlib.Data.List.TakeWhile

namespace ScanProvisioning.Text

variable {cs before after : List Char} {s : String} {n : Nat}

/-- Blanks, a plus sign or none, digits with that value, and blanks. -/
def Spells (s : String) (n : Nat) : Prop :=
  ∃ before sign digits after : List Char, s.toList = before ++ (sign ++ digits) ++ after ∧
    (∀ c ∈ before, isBlank c = true) ∧ (∀ c ∈ after, isBlank c = true) ∧ (sign = [] ∨ sign = ['+']) ∧
    digits ≠ [] ∧ (∀ c ∈ digits, c.isDigit = true) ∧ Nat.ofDigitChars 10 digits 0 = n

private theorem not_isBlank_of_isDigit {c : Char} (digit : c.isDigit = true) : isBlank c = false := by
  simp only [Char.isDigit, Bool.and_eq_true, decide_eq_true_eq, UInt32.le_iff_toNat_le] at digit
  have low : 48 ≤ c.toNat := digit.1
  have high : c.toNat ≤ 57 := digit.2
  simp only [isBlank, Bool.or_eq_false_iff, Bool.and_eq_false_iff, decide_eq_false_iff_not]
  omega

private theorem ne_of_isDigit {c d : Char} (digit : c.isDigit = true) (other : d.isDigit = false) : c ≠ d := by
  rintro rfl
  rw [digit] at other
  cases other

theorem digitsValue?_eq_some_iff {acc : Nat} :
    digitsValue? acc cs = some n ↔ (∀ c ∈ cs, c.isDigit = true) ∧ Nat.ofDigitChars 10 cs acc = n := by
  induction cs generalizing acc with
  | nil => simp [digitsValue?]
  | cons c cs ih =>
    rw [digitsValue?, Nat.ofDigitChars_cons, List.forall_mem_cons, Nat.mul_comm 10 acc]
    cases digit : c.isDigit with
    | true => simp [ih]
    | false => simp

/-- A plus sign or none, and digits. -/
theorem natural?_eq_some_iff : natural? s = some n ↔ ∃ sign digits : List Char, s.toList = sign ++ digits ∧
    (sign = [] ∨ sign = ['+']) ∧ digits ≠ [] ∧ (∀ c ∈ digits, c.isDigit = true) ∧
    Nat.ofDigitChars 10 digits 0 = n := by
  constructor
  · intro read
    unfold natural? at read
    split at read
    · cases read
    · cases read
    · next more chars =>
      obtain ⟨digits, value⟩ := digitsValue?_eq_some_iff.mp read
      refine ⟨['+'], _, chars, .inr rfl, ?_, digits, value⟩
      rintro rfl
      exact more rfl
    · next empty _ _ =>
      obtain ⟨digits, value⟩ := digitsValue?_eq_some_iff.mp read
      exact ⟨[], s.toList, rfl, .inl rfl, empty, digits, value⟩
  · rintro ⟨sign, digits, chars, sort, some, each, value⟩
    have read := digitsValue?_eq_some_iff.mpr ⟨each, value⟩
    unfold natural?
    rw [chars]
    obtain ⟨d, rest, rfl⟩ := List.exists_cons_of_ne_nil some
    rcases sort with rfl | rfl
    · have plain : d ≠ '+' := ne_of_isDigit (each d (.head rest)) (by decide)
      simpa [plain] using read
    · exact read

theorem uint64?_eq_some_iff {n : UInt64} : uint64? s = some n ↔ natural? s = some n.toNat := by
  unfold uint64?
  cases natural? s with
  | none => simp
  | some m =>
    rw [Option.bind_some]
    have bound := n.toNat_lt
    constructor
    · intro read
      split at read
      · next fits =>
        cases read
        exact congrArg some (UInt64.toNat_ofNat_of_lt' fits).symm
      · cases read
    · intro same
      cases same
      rw [if_pos bound, UInt64.ofNat_toNat]

/-- Trimming takes blanks away in front and behind. -/
theorem exists_around_trimChars (cs : List Char) : ∃ before after, cs = before ++ trimChars cs ++ after ∧
    (∀ c ∈ before, isBlank c = true) ∧ ∀ c ∈ after, isBlank c = true := by
  let rest := cs.dropWhile isBlank
  have front : cs.takeWhile isBlank ++ rest = cs := List.takeWhile_append_dropWhile
  have back : (rest.reverse.takeWhile isBlank) ++ (rest.reverse.dropWhile isBlank) = rest.reverse :=
    List.takeWhile_append_dropWhile
  have split : rest = trimChars cs ++ (rest.reverse.takeWhile isBlank).reverse := by
    have turned := congrArg List.reverse back
    rw [List.reverse_append, List.reverse_reverse] at turned
    exact turned.symm
  refine ⟨cs.takeWhile isBlank, (rest.reverse.takeWhile isBlank).reverse, ?_, ?_, ?_⟩
  · rw [List.append_assoc, ← split, front]
  · exact fun c mem => List.mem_takeWhile_imp mem
  · exact fun c mem => List.mem_takeWhile_imp (List.mem_reverse.mp mem)

private theorem dropWhile_around (blank : ∀ c ∈ before, isBlank c = true) (solid : ∀ c ∈ cs, isBlank c = false)
    (some : cs ≠ []) : (before ++ cs ++ after).dropWhile isBlank = cs ++ after := by
  obtain ⟨c, rest, rfl⟩ := List.exists_cons_of_ne_nil some
  have first : isBlank c = false := solid c (.head rest)
  rw [List.append_assoc, List.dropWhile_append_of_pos blank, List.cons_append, List.dropWhile_cons, first]
  rfl

private theorem trimChars_around (leading : ∀ c ∈ before, isBlank c = true)
    (trailing : ∀ c ∈ after, isBlank c = true)
    (solid : ∀ c ∈ cs, isBlank c = false) (some : cs ≠ []) : trimChars (before ++ cs ++ after) = cs := by
  have front : (before ++ cs ++ after).dropWhile isBlank = cs ++ after := dropWhile_around leading solid some
  have back : (after.reverse ++ cs.reverse ++ []).dropWhile isBlank = cs.reverse ++ [] := by
    refine dropWhile_around ?_ ?_ ?_
    · exact fun c mem => trailing c (List.mem_reverse.mp mem)
    · exact fun c mem => solid c (List.mem_reverse.mp mem)
    · simpa using some
  rw [List.append_nil, List.append_nil] at back
  rw [trimChars, front, dropEndWhile, List.reverse_append, back, List.reverse_reverse]

/-- What is read once blanks are trimmed. -/
theorem natural?_trim_iff : natural? (trim s) = some n ↔ Spells s n := by
  rw [natural?_eq_some_iff, trim, String.toList_ofList]
  constructor
  · rintro ⟨sign, digits, chars, sort, some, each, value⟩
    obtain ⟨before, after, around, leading, trailing⟩ := exists_around_trimChars s.toList
    rw [chars] at around
    exact ⟨before, sign, digits, after, around, leading, trailing, sort, some, each, value⟩
  · rintro ⟨before, sign, digits, after, around, leading, trailing, sort, some, each, value⟩
    have solid : ∀ c ∈ sign ++ digits, isBlank c = false := by
      intro c mem
      rcases List.mem_append.mp mem with mem | mem
      · rcases sort with rfl | rfl
        · cases mem
        · rw [List.mem_singleton.mp mem]
          decide
      · exact not_isBlank_of_isDigit (each c mem)
    have trimmed : trimChars s.toList = sign ++ digits := by
      rw [around]
      exact trimChars_around leading trailing solid (by simp [some])
    exact ⟨sign, digits, trimmed, sort, some, each, value⟩

theorem uint64?_trim_iff {n : UInt64} : uint64? (trim s) = some n ↔ Spells s n.toNat :=
  uint64?_eq_some_iff.trans natural?_trim_iff

/-- The decimal text of a number, with any blanks around it. -/
theorem spells_decimal (n : Nat) {u v : String} (leading : ∀ c ∈ u.toList, isBlank c = true)
    (trailing : ∀ c ∈ v.toList, isBlank c = true) : Spells (u ++ toString n ++ v) n := by
  refine ⟨u.toList, [], Nat.toDigits 10 n, v.toList, ?_, leading, trailing, .inl rfl, Nat.toDigits_ne_nil, ?_,
    Nat.ofDigitChars_ten_toDigits⟩
  · simp
  · exact fun c mem => Nat.isDigit_of_mem_toDigits (by decide) (by decide) mem

theorem Spells.notMem {c : Char} (spells : Spells s n) (solid : isBlank c = false) (sign : c ≠ '+')
    (other : c.isDigit = false) : c ∉ s.toList := by
  obtain ⟨before, plus, digits, after, chars, leading, trailing, sort, -, each, -⟩ := spells
  have blank {cs : List Char} (all : ∀ c ∈ cs, isBlank c = true) : c ∉ cs := by
    intro mem
    rw [all c mem] at solid
    cases solid
  have first : c ∉ plus := by
    rcases sort with rfl | rfl
    · exact List.not_mem_nil
    · simpa using sign
  have second : c ∉ digits := fun mem => ne_of_isDigit (each c mem) other rfl
  rw [chars]
  simp [blank leading, blank trailing, first, second]

/-- A text is cut at the first copy of a character. -/
theorem splitOnce_eq_some_iff {c : Char} {a b : String} : splitOnce c s = some (a, b) ↔
    s.toList = a.toList ++ c :: b.toList ∧ c ∉ a.toList := by
  rw [splitOnce, List.span_eq_takeWhile_dropWhile]
  constructor
  · intro cut
    have whole : s.toList.takeWhile (· != c) ++ s.toList.dropWhile (· != c) = s.toList :=
      List.takeWhile_append_dropWhile
    split at cut
    · cases cut
    · next before d rest parts =>
      obtain ⟨rfl, rfl⟩ := Prod.mk.inj (Option.some.inj cut)
      obtain ⟨rfl, dropped⟩ := Prod.mk.inj parts
      have here : d = c := by
        have head : s.toList.dropWhile (· != c) ≠ [] := by simp [dropped]
        have stops := List.head_dropWhile_not (· != c) head
        simpa [dropped] using stops
      subst here
      rw [String.toList_ofList, String.toList_ofList, ← dropped]
      refine ⟨whole.symm, ?_⟩
      intro mem
      simpa using List.mem_takeWhile_imp mem
  · rintro ⟨chars, first⟩
    have passed : ∀ x ∈ a.toList, (x != c) = true := by
      intro x mem
      have other : x ≠ c := fun same => first (same ▸ mem)
      simpa using other
    rw [chars, List.takeWhile_append_of_pos passed, List.dropWhile_append_of_pos passed]
    simp

end ScanProvisioning.Text
