import ScanProvisioning.Json.Printed
import ScanProvisioning.Json.Token
import Mathlib.Tactic.IntervalCases

namespace ScanProvisioning.Json

open Token

variable {c : Char} {acc cs rest : List Char} {fuel : Nat}

private theorem hexDigit?_digits : ∀ n < 32, ∃ a b,
    (if n < 16 then ['0'] else []) ++ Nat.toDigits 16 n = [a, b] ∧
    hexDigit? a = some (n / 16) ∧ hexDigit? b = some (n % 16) := by
  intro n control
  interval_cases n <;> exact ⟨_, _, rfl, rfl, rfl⟩

/-- Control characters without an escape of their own are written in four digits. -/
theorem unicodeEscape_control {n : Nat} (control : n < 32) (rest : List Char) :
    unicodeEscape ('0' :: '0' :: ((if n < 16 then ['0'] else []) ++ Nat.toDigits 16 n ++ rest)) =
      .ok (Char.ofNat n, rest) := by
  obtain ⟨a, b, digits, high, low⟩ := hexDigit?_digits n control
  have value : ((0 * 16 + 0) * 16 + n / 16) * 16 + n % 16 = n := by omega
  have zero : hexDigit? '0' = some 0 := rfl
  have read : hex4 ('0' :: '0' :: a :: b :: rest) = .ok (n, rest) := by
    simp only [hex4, zero, high, low, value]
  rw [digits, unicodeEscape]
  change (hex4 ('0' :: '0' :: a :: b :: rest) >>= _) = _
  rw [read]
  change (if 0xDC00 ≤ n ∧ n ≤ 0xDFFF then _ else _) = _
  rw [if_neg (by omega)]
  rw [if_pos (by omega)]
  rfl

private theorem readString_unicode (escape : unicodeEscape cs = .ok (c, rest)) :
    readString (fuel + 1) acc ('\\' :: 'u' :: cs) = readString fuel (c :: acc) rest := by
  change (unicodeEscape cs >>= fun found => readString fuel (found.1 :: acc) found.2) = _
  rw [escape]
  rfl

private theorem readString_plain (quote : c ≠ '"') (escape : c ≠ '\\') (control : ¬ c.toNat < 32) :
    readString (fuel + 1) acc (c :: cs) = readString fuel (c :: acc) cs := by
  rw [readString.eq_def]
  dsimp only
  rw [if_neg quote, if_neg escape, if_neg control]

/-- An escaped character is read back. -/
theorem readString_escapedChar :
    readString (fuel + 1) acc ((escapedChar c).toList ++ rest) = readString fuel (c :: acc) rest := by
  rw [escapedChar]
  split
  · next same => rw [same]; rfl
  split
  · next same => rw [same]; rfl
  split
  · next same => rw [same]; rfl
  split
  · next same => rw [same]; rfl
  split
  · next same => rw [same]; rfl
  split
  · next same =>
    rw [← Char.ofNat_toNat c, same]
    rfl
  split
  · next same =>
    rw [← Char.ofNat_toNat c, same]
    rfl
  split
  · next control =>
    have escape := unicodeEscape_control control rest
    rw [Char.ofNat_toNat] at escape
    simp only [String.toList_append, String.toList_ofList]
    refine Eq.trans ?_ (readString_unicode escape)
    rfl
  · next quote escape _ _ _ _ _ control =>
    rw [String.toList_singleton]
    exact readString_plain quote escape control

private theorem readString_escaped (cs rest : List Char) (enough : cs.length < fuel) :
    readString fuel acc (cs.flatMap (fun c => (escapedChar c).toList) ++ '"' :: rest) =
      .ok (String.ofList (acc.reverse ++ cs), rest) := by
  induction cs generalizing fuel acc with
  | nil =>
    obtain ⟨fuel, rfl⟩ := Nat.exists_eq_succ_of_ne_zero (by omega : fuel ≠ 0)
    rw [List.append_nil]
    rfl
  | cons c cs ih =>
    obtain ⟨fuel, rfl⟩ := Nat.exists_eq_succ_of_ne_zero (by omega : fuel ≠ 0)
    rw [List.flatMap_cons, List.append_assoc, readString_escapedChar, ih (by simpa using enough)]
    simp

private theorem toList_printedString (s : String) :
    (printedString s).toList = '"' :: (s.toList.flatMap fun c => (escapedChar c).toList) ++ ['"'] := by
  simp [printedString, List.flatMap_map]

/-- Texts that are printed alike, with the same text around them, are the same. -/
theorem printedString_inj {before after s t : String}
    (same : before ++ printedString s ++ after = before ++ printedString t ++ after) : s = t := by
  have chars := congrArg String.toList same
  simp only [String.toList_append, toList_printedString, List.append_assoc, List.cons_append,
    List.nil_append] at chars
  have inner := (List.cons.inj (List.append_cancel_left chars)).2
  have fits : s.toList.length < s.toList.length + t.toList.length + 1 := by omega
  have fits' : t.toList.length < s.toList.length + t.toList.length + 1 := by omega
  have read : readString _ [] _ = _ := readString_escaped s.toList after.toList fits
  rw [inner, readString_escaped t.toList after.toList fits'] at read
  simpa using read.symm

private theorem intercalate_around (sep : String) (xs ys : List String) :
    ∃ before after, ∀ x, sep.intercalate (xs ++ x :: ys) = before ++ x ++ after := by
  induction xs with
  | nil =>
    cases ys with
    | nil => exact ⟨"", "", by simp⟩
    | cons y ys => exact ⟨"", sep ++ sep.intercalate (y :: ys), by simp [String.append_assoc]⟩
  | cons first xs ih =>
    obtain ⟨before, after, around⟩ := ih
    refine ⟨first ++ sep ++ before, after, ?_⟩
    intro x
    have rest := around x
    cases xs with
    | nil => simp_all [String.append_assoc]
    | cons second xs => simp_all [String.append_assoc]

theorem printedMembers_append (members others : List (String × Json)) :
    printedMembers (members ++ others) = printedMembers members ++ printedMembers others := by
  induction members with
  | nil => rfl
  | cons member members ih =>
    obtain ⟨name, v⟩ := member
    simp [printedMembers, ih]

/-- Where a member is put in depends on names alone, so what is around another one does not depend on its
value. -/
theorem insert_around {name n : String} (apart : n ≠ name) (w : Json) (members others : List (String × Json)) :
    ∃ members' others', ∀ v,
      insert n w (members ++ (name, v) :: others) = members' ++ (name, v) :: others' := by
  induction members with
  | nil =>
    by_cases before : n < name
    · exact ⟨[(n, w)], others, fun v => by simp [insert, before]⟩
    · exact ⟨[], insert n w others, fun v => by simp [insert, before, apart]⟩
  | cons first members ih =>
    obtain ⟨m, u⟩ := first
    by_cases before : n < m
    · exact ⟨(n, w) :: (m, u) :: members, others, fun v => by simp [insert, before]⟩
    · by_cases same : n = m
      · subst same
        refine ⟨(n, w) :: members, others, fun v => ?_⟩
        rw [List.cons_append, insert, if_neg before, if_pos rfl]
        rfl
      · obtain ⟨members', others', rest⟩ := ih
        exact ⟨(m, u) :: members', others', fun v => by simp [insert, before, same, rest v]⟩

/-- The first member of an object stands somewhere in it, and what is around it does not depend on its value. -/
theorem object_around (name : String) (later : List (String × Json)) (apart : ∀ m ∈ later, m.1 ≠ name) :
    ∃ members others, ∀ v, object ((name, v) :: later) = .obj (members ++ (name, v) :: others) := by
  have placed : ∀ members others : List (String × Json), ∃ members' others', ∀ v,
      later.foldl (fun ms m => insert m.1 m.2 ms) (members ++ (name, v) :: others) =
        members' ++ (name, v) :: others' := by
    induction later with
    | nil => exact fun members others => ⟨members, others, fun _ => rfl⟩
    | cons m later ih =>
      intro members others
      obtain ⟨members', others', inserted⟩ :=
        insert_around (apart m List.mem_cons_self) m.2 members others
      obtain ⟨members'', others'', rest⟩ :=
        ih (fun k more => apart k (List.mem_cons_of_mem _ more)) members' others'
      refine ⟨members'', others'', fun v => ?_⟩
      rw [List.foldl_cons, inserted v, rest v]
  obtain ⟨members, others, rest⟩ := placed [] []
  exact ⟨members, others, fun v => congrArg obj (rest v)⟩

/-- Where a text stands in an object, the rest is printed alike whatever the text is. -/
theorem printed_around (name : String) (members others : List (String × Json)) :
    ∃ before after, ∀ s,
      (obj (members ++ (name, str s) :: others)).printed = before ++ printedString s ++ after := by
  obtain ⟨before, after, around⟩ := intercalate_around "," (printedMembers members) (printedMembers others)
  refine ⟨"\x7b" ++ before ++ (printedString name ++ ":"), after ++ "\x7d", ?_⟩
  intro s
  simp [printed, printedMembers_append, printedMembers, around, String.append_assoc]

end ScanProvisioning.Json
