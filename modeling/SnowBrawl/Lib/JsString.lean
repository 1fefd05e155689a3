import Mathlib

/-!
# ECMAScript strings

An ECMAScript string is a finite sequence of UTF-16 code units, with no promise
that surrogates are paired.  Lengths, `slice` offsets and `charCodeAt` all count
code units, so a model over Unicode scalar values (Lean's `Char`) would get the
length of every non-BMP string wrong and could not hold a lone surrogate at all.

This file fixes that representation and gives the three whitespace operations a
name sanitiser needs:

* `trim` — `String.prototype.trim`;
* `collapseWhitespace` — `replace(/\s+/g, " ")`, one space for every maximal
  run of whitespace;
* `slice` — `slice(0, n)` on a non-negative `n`.

Both `trim` and `\s` use the same set, the union of the grammar's *WhiteSpace*
and *LineTerminator* code points (`isWhiteSpace`); every member is a BMP code
point, so deciding it one code unit at a time is exact.
-/

namespace Js

/-- A UTF-16 code unit. -/
abbrev CodeUnit := Fin 65536

/-- `CodeUnit` is not empty.  Named once, so that every numeral of `CodeUnit`
refers to this proof instead of carrying its own. -/
instance instNeZeroCodeUnitCount : NeZero (65536 : ℕ) := ⟨by decide⟩

/-- An ECMAScript string value. -/
abbrev JsString := List CodeUnit

/-- `==` on strings is equality, named once for the same reason. -/
instance instLawfulBEqJsString : LawfulBEq JsString := inferInstance

/-- The string value of an ASCII literal, one code unit per character. -/
def ascii (s : String) : JsString := s.toList.map fun c => Fin.ofNat _ c.toNat

/-- *WhiteSpace* ∪ *LineTerminator* (ECMA-262 §12.2, §12.3): TAB, LF, VT, FF, CR,
the space separators of category Zs, ZWNBSP, LS and PS.  This is the set
`String.prototype.trim` strips and the regular expression class `\s` matches. -/
def isWhiteSpace (u : CodeUnit) : Bool :=
  (0x09 ≤ u.val && u.val ≤ 0x0D) || u.val = 0x20 || u.val = 0xA0 || u.val = 0x1680 ||
  (0x2000 ≤ u.val && u.val ≤ 0x200A) || u.val = 0x2028 || u.val = 0x2029 ||
  u.val = 0x202F || u.val = 0x205F || u.val = 0x3000 || u.val = 0xFEFF

/-- The code unit of `" "`. -/
def space : CodeUnit := 0x20

/-- `String.prototype.trim`: drop leading and trailing whitespace. -/
def trim (s : JsString) : JsString := (s.dropWhile isWhiteSpace).rdropWhile isWhiteSpace

/-- `replace(/\s+/g, " ")`, scanning left to right; `inRun` records that the
previous code unit was whitespace already replaced by the pending space. -/
def collapseRuns : Bool → JsString → JsString
  | _, [] => []
  | inRun, u :: rest =>
      if isWhiteSpace u then
        if inRun then collapseRuns true rest else space :: collapseRuns true rest
      else u :: collapseRuns false rest

/-- `replace(/\s+/g, " ")`. -/
def collapseWhitespace (s : JsString) : JsString := collapseRuns false s

/-- `slice(0, n)` for `n ≥ 0`: the first `n` code units. -/
def slice (s : JsString) (n : Nat) : JsString := s.take n

/-- `replace(/x/g, "y")` for single code units `x` and `y`. -/
def replaceAll (x y : CodeUnit) (s : JsString) : JsString := s.map fun u => if u = x then y else u

/-- `replace(/x+$/, "")`: drop the run of `x` that ends the string. -/
def dropTrailing (x : CodeUnit) (s : JsString) : JsString := s.rdropWhile (· == x)

/-- `split(sep)` for a separator of one code unit: the pieces between the
separators, in order, so one more piece than separators. -/
def split (sep : CodeUnit) : JsString → List JsString
  | [] => [[]]
  | u :: rest =>
      if u = sep then [] :: split sep rest
      else match split sep rest with
        | piece :: pieces => (u :: piece) :: pieces
        | [] => [[u]]

@[simp] theorem collapseRuns_nil (inRun : Bool) : collapseRuns inRun [] = [] := rfl

theorem length_slice (s : JsString) (n : Nat) : (slice s n).length = min n s.length := by
  simp [slice, List.length_take]

/-- `slice` never lengthens and keeps a non-empty string non-empty for `n > 0`. -/
theorem slice_length_mem {s : JsString} {n : Nat} (hs : s ≠ []) (hn : 0 < n) :
    1 ≤ (slice s n).length ∧ (slice s n).length ≤ n := by
  rw [length_slice]
  have : 0 < s.length := List.length_pos_iff.mpr hs
  omega

/-- A whitespace run outside a pending one always emits the space, so the
collapse of a non-empty string is non-empty. -/
theorem collapseRuns_ne_nil {s : JsString} (hs : s ≠ []) : collapseRuns false s ≠ [] := by
  obtain ⟨u, rest, rfl⟩ := List.exists_cons_of_ne_nil hs
  unfold collapseRuns
  split <;> simp_all

theorem collapseWhitespace_ne_nil {s : JsString} (hs : s ≠ []) : collapseWhitespace s ≠ [] :=
  collapseRuns_ne_nil hs

/-- The collapse never lengthens a string. -/
theorem length_collapseRuns_le (inRun : Bool) (s : JsString) :
    (collapseRuns inRun s).length ≤ s.length := by
  induction s generalizing inRun with
  | nil => simp
  | cons u rest ih =>
      unfold collapseRuns
      split
      · split
        · exact Nat.le_succ_of_le (ih true)
        · simpa using ih true
      · simpa using ih false

/-- Code units outside the whitespace set pass the collapse unchanged. -/
theorem collapseRuns_of_forall_not_white (inRun : Bool) {s : JsString}
    (h : ∀ u ∈ s, isWhiteSpace u = false) : collapseRuns inRun s = s := by
  induction s generalizing inRun with
  | nil => rfl
  | cons u rest ih =>
      have hu : isWhiteSpace u = false := h u (by simp)
      simp only [collapseRuns, hu, Bool.false_eq_true, ite_false]
      rw [ih false (fun v hv => h v (by simp [hv]))]

theorem trim_of_forall_not_white {s : JsString} (h : ∀ u ∈ s, isWhiteSpace u = false) :
    trim s = s := by
  have hdrop : s.dropWhile isWhiteSpace = s := by
    cases s with
    | nil => rfl
    | cons u rest => simp [h u (by simp)]
  rw [trim, hdrop, List.rdropWhile_eq_self_iff]
  intro hne
  exact by simpa using h _ (List.getLast_mem hne)

/-! ## Replacing and splitting -/

theorem replaceAll_append (x y : CodeUnit) (s t : JsString) :
    replaceAll x y (s ++ t) = replaceAll x y s ++ replaceAll x y t :=
  List.map_append

theorem mem_replaceAll {x y u : CodeUnit} {s : JsString} (h : u ∈ replaceAll x y s) :
    u = y ∨ u ∈ s := by
  obtain ⟨v, hv, rfl⟩ := List.mem_map.mp h
  by_cases hvx : v = x
  · exact Or.inl (if_pos hvx)
  · exact Or.inr (by rw [if_neg hvx]; exact hv)

theorem replaceAll_of_not_mem {x y : CodeUnit} {s : JsString} (h : x ∉ s) : replaceAll x y s = s := by
  unfold replaceAll
  conv_rhs => rw [← List.map_id s]
  refine List.map_congr_left fun u hu => if_neg ?_
  rintro rfl
  exact h hu

/-- A string without the separator is one piece. -/
theorem split_of_not_mem {sep : CodeUnit} {s : JsString} (h : sep ∉ s) : split sep s = [s] := by
  induction s with
  | nil => rfl
  | cons u rest ih =>
      have hu : u ≠ sep := fun hus => h (hus ▸ List.mem_cons_self)
      rw [split, if_neg hu, ih fun hr => h (List.mem_cons_of_mem u hr)]

/-- A separator after a piece without one ends that piece. -/
theorem split_append_cons {sep : CodeUnit} {s : JsString} (h : sep ∉ s) (t : JsString) :
    split sep (s ++ sep :: t) = s :: split sep t := by
  induction s with
  | nil => simp [split]
  | cons u rest ih =>
      have hu : u ≠ sep := fun hus => h (hus ▸ List.mem_cons_self)
      rw [List.cons_append, split, if_neg hu, ih fun hr => h (List.mem_cons_of_mem u hr)]

/-- Dropping a trailing run leaves a string unchanged that does not end in it. -/
theorem dropTrailing_append_replicate {x : CodeUnit} {s : JsString}
    (h : ∀ u ∈ s.getLast?, u ≠ x) (n : ℕ) : dropTrailing x (s ++ List.replicate n x) = s := by
  unfold dropTrailing
  induction n with
  | zero =>
      rw [List.replicate_zero, List.append_nil, List.rdropWhile_eq_self_iff]
      intro hne
      simpa using h _ (List.getLast?_eq_some_getLast hne)
  | succ n ih =>
      rw [List.replicate_succ', ← List.append_assoc, List.rdropWhile_concat_pos _ _ _ (by simp), ih]

end Js
