import Mathlib

/-!
# Texts

A text is the list of its characters. It is cut into lines and lines into words, as Python
does when it goes through a file and when it calls `str.split` without a separator: words
are separated by any run of spaces, so that spaces around a line do not matter.

What is put together from lines, or from words with one space between them, is cut into the
same pieces again.
-/

namespace SmartTraffic.Lib

abbrev Text := List Char

/-! ## Words -/

/-- `c.isspace()`. -/
def isSpace (c : Char) : Bool :=
  let n := c.toNat
  decide (9 ≤ n ∧ n ≤ 13 ∨ 28 ≤ n ∧ n ≤ 32 ∨ n = 0x85 ∨ n = 0xa0 ∨ n = 0x1680
    ∨ 0x2000 ≤ n ∧ n ≤ 0x200a ∨ n = 0x2028 ∨ n = 0x2029 ∨ n = 0x202f ∨ n = 0x205f ∨ n = 0x3000)

/-- `text.strip()`. -/
def stripSpaces (text : Text) : Text :=
  ((text.dropWhile isSpace).reverse.dropWhile isSpace).reverse

/-- `text.split()`. -/
def words (text : Text) : List Text := (text.splitOnP isSpace).filter (· ≠ [])

/-- A text that can be a word: not empty, and without a space in it. -/
def IsWord (text : Text) : Prop := text ≠ [] ∧ ∀ c ∈ text, isSpace c = false

theorem words_cons_space {c : Char} (hc : isSpace c = true) (text : Text) :
    words (c :: text) = words text := by
  unfold words
  rw [List.splitOnP_cons_eq_if_modifyHead, if_pos hc, List.filter_cons_of_neg (by simp)]

theorem words_concat_space {c : Char} (hc : isSpace c = true) (text : Text) :
    words (text ++ [c]) = words text := by
  unfold words
  rw [List.splitOnP_append_cons text [] hc, List.filter_append, List.splitOnP_nil,
    List.filter_cons_of_neg (by simp), List.filter_nil, List.append_nil]

/-- **Spaces around a text do not matter to its words.** -/
theorem words_stripSpaces (text : Text) : words (stripSpaces text) = words text := by
  have hfront : ∀ text : Text, words (text.dropWhile isSpace) = words text := by
    intro text
    induction text with
    | nil => rfl
    | cons c text ih =>
        cases hc : isSpace c with
        | true => rw [List.dropWhile_cons_of_pos hc, ih, words_cons_space hc]
        | false => rw [List.dropWhile_cons_of_neg (by simp [hc])]
  have hback : ∀ text : Text, words (text.reverse.dropWhile isSpace).reverse = words text := by
    intro text
    induction text using List.reverseRecOn with
    | nil => rfl
    | append_singleton text c ih =>
        rw [List.reverse_append, List.reverse_singleton, List.singleton_append]
        cases hc : isSpace c with
        | true => rw [List.dropWhile_cons_of_pos hc, ih, words_concat_space hc]
        | false =>
            rw [List.dropWhile_cons_of_neg (by simp [hc]), List.reverse_cons,
              List.reverse_reverse]
  unfold stripSpaces
  rw [hback, hfront]

/-- **Words with a space between them are found again.** -/
theorem words_intercalate {ws : List Text} (h : ∀ w ∈ ws, IsWord w) :
    words (List.intercalate [' '] ws) = ws := by
  induction ws with
  | nil => rfl
  | cons w ws ih =>
      obtain ⟨hne, hletters⟩ := h w List.mem_cons_self
      have ih := ih fun v hv => h v (List.mem_cons_of_mem _ hv)
      cases ws with
      | nil =>
          unfold words
          rw [List.intercalate_singleton, List.splitOnP_eq_singleton hletters,
            List.filter_cons_of_pos (by simpa using hne), List.filter_nil]
      | cons v ws =>
          have hspace : isSpace ' ' = true := by decide
          unfold words at ih ⊢
          rw [List.intercalate_cons_cons, List.append_assoc, List.singleton_append,
            List.splitOnP_append_cons_of_forall_mem hletters ' ' hspace,
            List.filter_cons_of_pos (by simpa using hne), ih]

/-! ## Lines -/

/-- Every kind of line end as one, after the character `previous`. -/
def unifyNewlines (previous : Char) : Text → Text
  | [] => []
  | c :: text =>
      if previous = '\r' ∧ c = '\n' then unifyNewlines c text
      else (if c = '\r' then '\n' else c) :: unifyNewlines c text

/-- The lines of a file, without their ends. -/
def fileLines (text : Text) : List Text :=
  let lines := (unifyNewlines ' ' text).splitOn '\n'
  if lines.getLast? = some [] then lines.dropLast else lines

/-- `"\n".join(lines) + ("\n" if lines else "")`. -/
def joinLines (lines : List Text) : Text :=
  List.intercalate ['\n'] lines ++ if lines = [] then [] else ['\n']

/-- A text that can be a line: without a line end in it. -/
def IsLine (text : Text) : Prop := '\n' ∉ text ∧ '\r' ∉ text

theorem unifyNewlines_of_notMem {previous : Char} (hprevious : previous ≠ '\r') {text : Text}
    (h : '\r' ∉ text) : unifyNewlines previous text = text := by
  induction text generalizing previous with
  | nil => rfl
  | cons c text ih =>
      rw [List.mem_cons, not_or] at h
      have hc : c ≠ '\r' := Ne.symm h.1
      rw [unifyNewlines, if_neg (fun hskip => hprevious hskip.1), if_neg hc, ih hc h.2]

theorem notMem_intercalate {c : Char} {sep : Text} (hsep : c ∉ sep) {ls : List Text}
    (h : ∀ l ∈ ls, c ∉ l) : c ∉ List.intercalate sep ls := by
  induction ls with
  | nil => exact List.not_mem_nil
  | cons l ls ih =>
      have hl := h l List.mem_cons_self
      have ih := ih fun l' hl' => h l' (List.mem_cons_of_mem _ hl')
      cases ls with
      | nil =>
          rw [List.intercalate_singleton]
          exact hl
      | cons l' ls =>
          rw [List.intercalate_cons_cons, List.mem_append, List.mem_append, not_or, not_or]
          exact ⟨⟨hl, hsep⟩, ih⟩

/-- Words with a space between them are a line. -/
theorem isLine_intercalate {ws : List Text} (h : ∀ w ∈ ws, IsWord w) :
    IsLine (List.intercalate [' '] ws) := by
  have hnone : ∀ c, isSpace c = true → c ≠ ' ' → c ∉ List.intercalate [' '] ws := by
    intro c hc hne
    refine notMem_intercalate (by simpa using hne) fun w hw hmem => ?_
    have hletter := (h w hw).2 c hmem
    rw [hc] at hletter
    cases hletter
  exact ⟨hnone '\n' (by decide) (by decide), hnone '\r' (by decide) (by decide)⟩

/-- **Lines are found again.** -/
theorem fileLines_joinLines {lines : List Text} (h : ∀ line ∈ lines, IsLine line) :
    fileLines (joinLines lines) = lines := by
  unfold fileLines joinLines
  by_cases hnone : lines = []
  · rw [hnone]
    rfl
  · have hreturn : '\r' ∉ List.intercalate ['\n'] lines ++ ['\n'] := by
      rw [List.mem_append, not_or]
      exact ⟨notMem_intercalate (by decide) fun line hline => (h line hline).2, by decide⟩
    have hcut : (List.intercalate ['\n'] lines ++ ['\n']).splitOn '\n' = lines ++ [[]] := by
      rw [List.splitOn_append_cons_self,
        List.splitOn_intercalate _ (fun line hline => (h line hline).1) hnone]
      rfl
    rw [if_neg hnone, unifyNewlines_of_notMem (by decide) hreturn, hcut]
    simp

/-- Lines that were appended one at a time. -/
theorem flatMap_lineEnd (lines : List Text) :
    (lines.flatMap fun line => line ++ ['\n']) = joinLines lines := by
  unfold joinLines
  induction lines with
  | nil => rfl
  | cons line lines ih =>
      rw [List.flatMap_cons, ih]
      cases lines with
      | nil => simp
      | cons line' lines => simp [List.intercalate_cons_cons]

end SmartTraffic.Lib
