import ScanProvisioning.Text.Base64

namespace ScanProvisioning.Text.Base64

/-- The number for which a character stands as a digit. -/
def value (c : Char) : Option Nat :=
  if 'A' ≤ c ∧ c ≤ 'Z' then some (c.toNat - 'A'.toNat)
  else if 'a' ≤ c ∧ c ≤ 'z' then some (c.toNat - 'a'.toNat + 26)
  else if '0' ≤ c ∧ c ≤ '9' then some (c.toNat - '0'.toNat + 52)
  else if c = '+' then some 62
  else if c = '/' then some 63
  else none

/-- The bytes of groups of four digits. The last group may end in padding, which stands for zeros only. -/
def groups : List Char → Option (List UInt8)
  | [] => some []
  | [a, b, '=', '='] => do
    let n := (← value a) * 64 + (← value b)
    if n % 16 = 0 then some [UInt8.ofNat (n / 16)] else none
  | [a, b, c, '='] => do
    let n := ((← value a) * 64 + (← value b)) * 64 + (← value c)
    if n % 4 = 0 then some [UInt8.ofNat (n / 1024), UInt8.ofNat (n / 4)] else none
  | a :: b :: c :: d :: rest => do
    let n := (((← value a) * 64 + (← value b)) * 64 + (← value c)) * 64 + (← value d)
    return UInt8.ofNat (n / 65536) :: UInt8.ofNat (n / 256) :: UInt8.ofNat n :: (← groups rest)
  | _ => none

/-- What a decoder makes of a text; line ends in it do not count. -/
def decoded (s : String) : Option (List UInt8) := groups (s.toList.filter (· ≠ '\n'))

theorem value_digit : ∀ {n : Nat}, n < 64 → value (digit n) = some n := by
  have all : ∀ n < 64, value (digit n) = some n := by decide
  exact fun {n} small => all n small

theorem digit_ne {n : Nat} (small : n < 64) {c : Char} (none : value c = none) : digit n ≠ c := by
  intro same
  rw [← same, value_digit small] at none
  cases none

/-- Every character of an encoded text is a digit or padding. -/
theorem mem_digits {bs : List UInt8} {c : Char} (mem : c ∈ digits bs) : (∃ n < 64, digit n = c) ∨ c = '=' := by
  fun_induction digits bs with
  | case1 x y z rest n ih =>
    have sizes : x.toNat < 256 ∧ y.toNat < 256 ∧ z.toNat < 256 := ⟨x.toNat_lt, y.toNat_lt, z.toNat_lt⟩
    simp only [List.mem_cons] at mem
    obtain rfl | rfl | rfl | rfl | later := mem
    · exact .inl ⟨n / 262144, by omega, rfl⟩
    · exact .inl ⟨n / 4096 % 64, by omega, rfl⟩
    · exact .inl ⟨n / 64 % 64, by omega, rfl⟩
    · exact .inl ⟨n % 64, by omega, rfl⟩
    · exact ih later
  | case2 x y n =>
    have sizes : x.toNat < 256 ∧ y.toNat < 256 := ⟨x.toNat_lt, y.toNat_lt⟩
    simp only [List.mem_cons, List.not_mem_nil, or_false] at mem
    obtain rfl | rfl | rfl | padding := mem
    · exact .inl ⟨n / 4096, by omega, rfl⟩
    · exact .inl ⟨n / 64 % 64, by omega, rfl⟩
    · exact .inl ⟨n % 64, by omega, rfl⟩
    · exact .inr padding
  | case3 x n =>
    have size : x.toNat < 256 := x.toNat_lt
    simp only [List.mem_cons, List.not_mem_nil, or_false, or_self] at mem
    obtain rfl | rfl | padding := mem
    · exact .inl ⟨n / 64, by omega, rfl⟩
    · exact .inl ⟨n % 64, by omega, rfl⟩
    · exact .inr padding
  | case4 => cases mem

/-- A character that is neither a digit nor padding does not occur in an encoded text. -/
theorem notMem_digits {bs : List UInt8} {c : Char} (none : value c = none) (ne : c ≠ '=') : c ∉ digits bs := by
  intro mem
  obtain ⟨n, small, same⟩ | same := mem_digits mem
  · exact digit_ne small none same
  · exact ne same

/-- A full group of digits. -/
theorem groups_digit {i j k l : Nat} (rest : List Char) (i_lt : i < 64) (j_lt : j < 64) (k_lt : k < 64)
    (l_lt : l < 64) : groups (digit i :: digit j :: digit k :: digit l :: rest) =
      (groups rest).map fun bs =>
        let n := ((i * 64 + j) * 64 + k) * 64 + l
        UInt8.ofNat (n / 65536) :: UInt8.ofNat (n / 256) :: UInt8.ofNat n :: bs := by
  have unpadded : digit l ≠ '=' := digit_ne l_lt rfl
  rw [groups, value_digit i_lt, value_digit j_lt, value_digit k_lt, value_digit l_lt]
  · cases groups rest <;> rfl
  · intro _ padding
    exact absurd padding unpadded
  · intro padding
    exact absurd padding unpadded

theorem ofNat_eq {n : Nat} {x : UInt8} (low : n % 256 = x.toNat) : UInt8.ofNat n = x :=
  UInt8.toNat_inj.mp (UInt8.toNat_ofNat'.trans low)

private theorem groups_digits (bs : List UInt8) : groups (digits bs) = some bs := by
  fun_induction digits bs with
  | case1 x y z rest n ih =>
    have sizes : x.toNat < 256 ∧ y.toNat < 256 ∧ z.toNat < 256 := ⟨x.toNat_lt, y.toNat_lt, z.toNat_lt⟩
    have number : ((n / 262144 * 64 + n / 4096 % 64) * 64 + n / 64 % 64) * 64 + n % 64 = n := by omega
    have first : UInt8.ofNat (n / 65536) = x := ofNat_eq (by omega)
    have second : UInt8.ofNat (n / 256) = y := ofNat_eq (by omega)
    have third : UInt8.ofNat n = z := ofNat_eq (by omega)
    rw [groups_digit _ (by omega) (by omega) (by omega) (by omega), ih, Option.map_some]
    simp only [number, first, second, third]
  | case2 x y n =>
    have sizes : x.toNat < 256 ∧ y.toNat < 256 := ⟨x.toNat_lt, y.toNat_lt⟩
    have number : (n / 4096 * 64 + n / 64 % 64) * 64 + n % 64 = n := by omega
    have first : UInt8.ofNat (n / 1024) = x := ofNat_eq (by omega)
    have second : UInt8.ofNat (n / 4) = y := ofNat_eq (by omega)
    have unpadded : digit (n % 64) ≠ '=' := digit_ne (by omega) rfl
    have zeros : n % 4 = 0 := by omega
    rw [groups, value_digit (by omega), value_digit (by omega), value_digit (by omega)]
    · simp only [Option.bind_eq_bind, Option.bind_some, number, zeros, first, second, if_true]
    · exact unpadded
  | case3 x n =>
    have size : x.toNat < 256 := x.toNat_lt
    have number : n / 64 * 64 + n % 64 = n := by omega
    have only : UInt8.ofNat (n / 16) = x := ofNat_eq (by omega)
    have zeros : n % 16 = 0 := by omega
    rw [groups, value_digit (by omega), value_digit (by omega)]
    simp only [Option.bind_eq_bind, Option.bind_some, number, zeros, only, if_true]
  | case4 => rfl

/-- What was encoded and printed as a line comes back. -/
theorem decoded_encoded (s : String) : decoded (encoded s ++ "\n") = some (bytes s) := by
  have unbroken : ∀ c ∈ digits (bytes s), decide (c ≠ '\n') = true := by
    intro c mem
    refine decide_eq_true fun same => ?_
    subst same
    exact notMem_digits rfl (by decide) mem
  rw [decoded, encoded, String.toList_append, String.toList_ofList, List.filter_append,
    List.filter_eq_self.mpr unbroken]
  exact (congrArg groups (List.append_nil _)).trans (groups_digits _)

example : decoded "Zm8=\n" = some [102, 111] := rfl

theorem toByteArray_bytes (s : String) : (bytes s).toByteArray = s.toUTF8 := String.utf8Encode_toList

end ScanProvisioning.Text.Base64
