import Mathlib.Data.List.TakeDrop
import ScanProvisioning.Http.Url

namespace ScanProvisioning.Http.Url

private theorem dropWhile_append_stop {p : Char → Bool} {c : Char} (stop : p c = false) (cs rest : List Char) :
    ∃ kept, (cs ++ c :: rest).dropWhile p = kept ++ c :: rest := by
  induction cs with
  | nil => exact ⟨[], List.dropWhile_cons_of_neg (by simp [stop])⟩
  | cons d cs ih =>
    cases h : p d with
    | true =>
      rw [List.cons_append, List.dropWhile_cons_of_pos h]
      exact ih
    | false => exact ⟨d :: cs, List.dropWhile_cons_of_neg (by simp [h])⟩

theorem span_append_through {p : Char → Bool} {cs : List Char} (through : ∀ c ∈ cs, p c = true)
    (rest : List Char) : (cs ++ rest).span p = (cs ++ (rest.span p).1, (rest.span p).2) := by
  simp only [List.span_eq_takeWhile_dropWhile, List.takeWhile_append_of_pos through,
    List.dropWhile_append_of_pos through]

theorem span_ne_of_not_mem {sep : Char} {cs : List Char} (absent : sep ∉ cs) :
    cs.span (· != sep) = (cs, []) := by
  have through (c : Char) (mem : c ∈ cs) : (c != sep) = true := by
    simp only [bne_iff_ne, ne_eq]
    rintro rfl
    exact absent mem
  have whole := span_append_through through []
  rw [List.append_nil] at whole
  rw [whole]
  simp [List.span_eq_takeWhile_dropWhile]

theorem splitLast_of_not_mem {sep : Char} {cs : List Char} (absent : sep ∉ cs) : splitLast sep cs = none := by
  rw [splitLast, span_ne_of_not_mem (by simpa using absent)]

/-- What an address begins with counts in full, if it begins and ends visibly. -/
theorem significant_append {c d : Char} {cs : List Char} (starts : 0x20 < c.toNat) (ends : 0x20 < d.toNat)
    (plain : ∀ x ∈ c :: cs ++ [d], x ∉ ['\t', '\n', '\r']) {s : String} {rest : List Char}
    (written : s.toList = c :: cs ++ d :: rest) :
    ∃ kept, significant s = c :: cs ++ d :: kept := by
  have last : decide (d.toNat ≤ 0x20) = false := by simpa using ends
  obtain ⟨kept, trimmed⟩ := dropWhile_append_stop (p := fun c : Char => decide (c.toNat ≤ 0x20)) last
    rest.reverse (c :: cs).reverse
  have whole : (c :: cs ++ d :: rest).reverse = rest.reverse ++ d :: (c :: cs).reverse := by simp
  have part : (c :: cs ++ [d]).filter (fun x => decide (x ≠ '\t') && decide (x ≠ '\n') && decide (x ≠ '\r')) =
      c :: cs ++ [d] := by
    rw [List.filter_eq_self]
    intro x mem
    simpa [and_assoc] using plain x mem
  refine ⟨kept.reverse.filter fun x => decide (x ≠ '\t') && decide (x ≠ '\n') && decide (x ≠ '\r'), ?_⟩
  simp only [significant]
  rw [written, List.cons_append, List.dropWhile_cons_of_neg (by simpa using starts), ← List.cons_append, whole,
    trimmed]
  have back : (kept ++ d :: (c :: cs).reverse).reverse = (c :: cs ++ [d]) ++ kept.reverse := by simp
  rw [back, List.filter_append, part]
  simp

/-- Characters that do not stand in a host, or do not count there. -/
def hostEnds : List Char := ['#', '?', '@', ':', ']', '\t', '\n', '\r']

/-- A part of an address that is the host and nothing else. -/
structure Bare (host : List Char) : Prop where
  some : host ≠ []
  plain : ∀ c ∈ host, c ∉ hostEnds ∧ isSlash c = false

theorem Bare.of_all {host : List Char} (some : host ≠ [])
    (plain : (host.all fun c => c ∉ hostEnds ∧ isSlash c = false) = true) : Bare host :=
  ⟨some, fun c mem => of_decide_eq_true (List.all_eq_true.mp plain c mem)⟩

theorem Bare.not_mem {host : List Char} (bare : Bare host) {c : Char} (ends : c ∈ hostEnds) :
    c ∉ host :=
  fun mem => (bare.plain c mem).1 ends

private theorem sections_host {host : List Char} (bare : Bare host) (rest : List Char) :
    ∃ path query fragment, sections (host ++ '/' :: rest) = (host, path, query, fragment) := by
  have through (sep : Char) (ends : sep ∈ hostEnds) (rest : List Char) :
      ∃ kept others, (host ++ '/' :: rest).span (· != sep) = (host ++ '/' :: kept, others) := by
    have other (c : Char) (mem : c ∈ host ++ ['/']) : (c != sep) = true := by
      rcases List.mem_append.mp mem with mem | mem
      · simp only [bne_iff_ne, ne_eq]
        rintro rfl
        exact bare.not_mem ends mem
      · obtain rfl := List.mem_singleton.mp mem
        have plain : '/' ∉ hostEnds := by decide
        exact bne_iff_ne.mpr fun same => plain (same ▸ ends)
    have whole := span_append_through other rest
    rw [List.append_assoc, List.append_assoc] at whole
    exact ⟨_, _, whole⟩
  obtain ⟨kept, others, hash⟩ := through '#' (by decide) rest
  obtain ⟨kept', others', mark⟩ := through '?' (by decide) kept
  have slash : (host ++ '/' :: kept').span (fun c => !isSlash c) = (host, '/' :: kept') := by
    have other (c : Char) (mem : c ∈ host) : (fun c => !isSlash c) c = true := by simp [(bare.plain c mem).2]
    have whole := span_append_through other ('/' :: kept')
    have stop : ('/' :: kept').span (fun c => !isSlash c) = ([], '/' :: kept') := by
      simp [List.span_eq_takeWhile_dropWhile, isSlash]
    rw [whole, stop, List.append_nil]
  simp only [sections, hash]
  cases others <;> simp only [mark] <;> cases others' <;> simp only [slash] <;> exact ⟨_, _, _, rfl⟩

private theorem splitPort_host {host : List Char} (bare : Bare host) : splitPort host = (host, none) := by
  simp only [splitPort, splitLast_of_not_mem (bare.not_mem (by decide : ']' ∈ _)), List.drop_zero,
    span_ne_of_not_mem (bare.not_mem (by decide : ':' ∈ _))]

/-- Whatever follows the slash that ends the host, an address has its scheme and its host. -/
theorem parse_host {s name : String} {host path : List Char}
    (written : significant s = "https://".toList ++ host ++ '/' :: path) (bare : Bare host)
    (named : Host.parse? host = some name) :
    ∃ url, parse s = .ok url ∧ url.scheme = "https" ∧ url.host = name := by
  have scheme : schemeOf? (significant s) = some ("https", '/' :: '/' :: (host ++ '/' :: path)) := by
    have lower : Text.toLowerAscii (String.ofList ['h', 't', 't', 'p', 's']) = "https" := by decide +kernel
    rw [written]
    simp [schemeOf?, List.span_eq_takeWhile_dropWhile, lower]
  have slashes : ('/' :: '/' :: (host ++ '/' :: path)).dropWhile isSlash = host ++ '/' :: path := by
    obtain ⟨c, cs, rfl⟩ := List.exists_cons_of_ne_nil bare.some
    have stop := (bare.plain c (.head _)).2
    rw [List.dropWhile_cons_of_pos rfl, List.dropWhile_cons_of_pos rfl, List.cons_append,
      List.dropWhile_cons_of_neg (by simp [stop])]
  obtain ⟨path, query, fragment, parts⟩ := sections_host bare path
  have login := splitLast_of_not_mem (bare.not_mem (by decide : '@' ∈ _))
  unfold parse
  simp [scheme, slashes, parts, login, splitPort_host bare, named, portOf?, Pure.pure, Except.pure]

theorem parse_https {host name : String} (bare : Bare host.toList) (named : Host.parse? host.toList = some name)
    (rest : String) :
    ∃ url, parse ("https://" ++ host ++ "/" ++ rest) = .ok url ∧ url.scheme = "https" ∧ url.host = name := by
  have plain (x : Char) (mem : x ∈ 'h' :: ("ttps://".toList ++ host.toList) ++ ['/']) :
      x ∉ ['\t', '\n', '\r'] := by
    rw [← List.cons_append, List.mem_append, List.mem_append] at mem
    rcases mem with (scheme | inside) | slash
    · have visible : ("https://".toList.all fun c => c ∉ ['\t', '\n', '\r']) = true := by decide
      exact of_decide_eq_true (List.all_eq_true.mp visible x scheme)
    · exact fun blank => (bare.plain x inside).1 (List.mem_append_right ['#', '?', '@', ':', ']'] blank)
    · obtain rfl := List.mem_singleton.mp slash
      decide
  have written : ("https://" ++ host ++ "/" ++ rest).toList =
      'h' :: ("ttps://".toList ++ host.toList) ++ '/' :: rest.toList := by simp [String.toList_append]
  obtain ⟨kept, counts⟩ := significant_append (by decide) (by decide) plain written
  exact parse_host counts bare named

end ScanProvisioning.Http.Url
