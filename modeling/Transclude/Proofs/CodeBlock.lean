import Transclude.CodeBlock
import Transclude.Directive
import Transclude.Proofs.Text.Blank
import Transclude.Proofs.Text.Line

/-!
# The lines of a code block

A rendered block is a list of lines: the opening fence, the lines of the code and
the closing fence, all of them with the indentation of the directive line in
front and its carriage returns behind (`render_eq_unlines`).

Code none of whose lines is a closing fence is `Unfenced`.  A block of unfenced
code ends where it was written to end, whatever follows it
(`length?_rendered_append`), and a block of other code ends before
(`skip_render`).
-/

namespace Transclude.CodeBlock

open Transclude.Text

/-! ## Without carriage returns -/

/-- The lines of a block that a directive line without carriage returns gets. -/
def plainLines (line : String) (language : Language) (code : String) : List String :=
  let margin := indentation line
  (margin ++ fence ++ language.tag) :: (lines code).map (margin ++ ·) ++ [margin ++ fence]

/-- Terminated code is indented line by line, also where there is no indentation. -/
theorem indent_terminated (code margin : String) :
    indent (String.ofList (terminated code.toList)) margin =
      unlines ((lines code).map (margin ++ ·)) := by
  unfold indent
  split
  · rename_i h
    rw [String.isEmpty_iff.1 h]
    simp only [String.empty_append, List.map_id', unlines_lines]
  · rw [lines_terminated]
    simp only [unlines, List.map_map, Function.comp_def, String.append_assoc]

/-- A block under a line without carriage returns is written as its lines. -/
private theorem renderPlain_eq_unlines (line : String) (language : Language) (code : String) :
    renderPlain line language code = unlines (plainLines line language code) := by
  simp only [renderPlain, plainLines, indent_terminated, List.cons_append, unlines_cons,
    unlines_append, unlines_nil, String.append_assoc, String.append_empty]

/-! ## With carriage returns -/

/-- Carriage returns. -/
def returns (n : Nat) : String := String.ofList (List.replicate n '\r')

/-- Code with `n` times one carriage return less at the end of each line. -/
def withoutReturnPairs : Nat → String → String
  | 0, code => code
  | n + 1, code => withoutReturnPairs n (String.ofList (dropReturns code.toList))

/-- Carriage returns are added to the parts of a text. -/
theorem addReturns_append (cs ds : List Char) :
    addReturns (cs ++ ds) = addReturns cs ++ addReturns ds := by
  simp [addReturns]

/-- On one line no carriage return is added. -/
theorem addReturns_of_not_mem {cs : List Char} (h : '\n' ∉ cs) : addReturns cs = cs := by
  induction cs with
  | nil => rfl
  | cons c cs ih =>
    simp only [List.mem_cons, not_or] at h
    have hc : ¬c = '\n' := fun he => h.1 he.symm
    have hcs : addReturns cs = cs := ih h.2
    simp only [addReturns] at hcs
    simp only [addReturns, List.flatMap_cons, hc, if_false, hcs, List.singleton_append]

/-- A carriage return comes to the end of each line. -/
theorem addReturns_unlines {ls : List String} (h : ∀ l ∈ ls, '\n' ∉ l.toList) :
    String.ofList (addReturns (unlines ls).toList) = unlines (ls.map (· ++ "\r")) := by
  induction ls with
  | nil => simp [addReturns]
  | cons l ls ih =>
    have hl := addReturns_of_not_mem (h l List.mem_cons_self)
    have hls := ih fun m hm => h m (List.mem_cons_of_mem _ hm)
    -- Only the newline that ends the line gets a carriage return.
    have hnewline : addReturns "\n".toList = "\r\n".toList := rfl
    have hreturn : l ++ "\r" ++ "\n" = l ++ "\r\n" := by rw [String.append_assoc]; rfl
    rw [List.map_cons, unlines_cons, unlines_cons, ← hls, hreturn, String.toList_append,
      String.toList_append, addReturns_append, addReturns_append, hl, hnewline,
      String.ofList_append, String.ofList_append, String.ofList_toList, String.ofList_toList]

/-- Carriage returns are on one line. -/
theorem newline_not_mem_returns (n : Nat) : '\n' ∉ (returns n).toList := by
  simp [returns, List.mem_replicate]

/-- One carriage return more may stand at the end. -/
theorem returns_succ (n : Nat) : returns n ++ "\r" = returns (n + 1) := by
  rw [← String.toList_inj]
  simp [returns, List.replicate_succ']

/-- The lines of a block under a directive line with `n` carriage returns. -/
def linesUnder (line : String) (language : Language) (n : Nat) (code : String) : List String :=
  (plainLines line language (withoutReturnPairs n code)).map (· ++ returns n)

/-- No line of a block holds a newline, as the directive line holds none. -/
theorem newline_not_mem_plainLines {line : String} (h : '\n' ∉ line.toList)
    (language : Language) (code : String) :
    ∀ l ∈ plainLines line language code, '\n' ∉ l.toList := by
  -- No part of a line can hold a newline: the margin comes from the line, and the tags are known.
  have hmargin : '\n' ∉ (indentation line).toList := by
    rw [indentation, String.toList_ofList]
    exact fun hm => h (List.takeWhile_subset _ hm)
  have htag : '\n' ∉ language.tag.toList := by cases language <;> decide
  have hfence : '\n' ∉ fence.toList := by decide
  intro l hl
  simp only [plainLines, List.cons_append, List.mem_cons, List.mem_append, List.mem_map,
    List.not_mem_nil, or_false] at hl
  -- The first line, a line of code, and the last line.
  rcases hl with rfl | ⟨codeLine, hcode, rfl⟩ | rfl
  · simp [hmargin, hfence, htag]
  · simp [hmargin, newline_not_mem_of_mem_lines hcode]
  · simp [hmargin, hfence]

/-- The lines of a block under a line are single lines. -/
theorem newline_not_mem_linesUnder {line : String} (h : '\n' ∉ line.toList)
    (language : Language) (n : Nat) (code : String) :
    ∀ l ∈ linesUnder line language n code, '\n' ∉ l.toList := by
  intro l hl
  obtain ⟨plain, hplain, rfl⟩ := List.mem_map.1 hl
  rw [String.toList_append, List.mem_append, not_or]
  exact ⟨newline_not_mem_plainLines h _ _ plain hplain, newline_not_mem_returns n⟩

/-- A block under a line is written as its lines. -/
private theorem renderUnder_eq_unlines {line : String}
    (h : '\n' ∉ line.toList) (language : Language)
    (n : Nat) (code : String) :
    renderUnder line language n code = unlines (linesUnder line language n code) := by
  induction n generalizing code with
  | zero =>
    have hzero : returns 0 = "" := rfl
    simp [renderUnder, linesUnder, withoutReturnPairs, renderPlain_eq_unlines, hzero]
  | succ n ih =>
    -- The outer carriage return is added to lines that are lines already.
    rw [renderUnder, ih, addReturns_unlines (newline_not_mem_linesUnder h _ _ _)]
    simp only [linesUnder, List.map_map, Function.comp_def, String.append_assoc, returns_succ,
      withoutReturnPairs]

/-- The lines of the block that shows `code` under the directive line `line`. -/
def rendered (line : String) (language : Language) (code : String) : List String :=
  linesUnder (withoutReturns line) language (finalReturns line) code

/-- A line without its final carriage returns is still one line. -/
private theorem newline_not_mem_withoutReturns {line : String} (h : '\n' ∉ line.toList) :
    '\n' ∉ (withoutReturns line).toList := by
  rw [withoutReturns, String.toList_ofList, List.mem_reverse]
  exact fun hm => h (List.mem_reverse.1 (List.dropWhile_subset _ hm))

/-- A block is its lines, written out. -/
theorem render_eq_unlines {line : String} (h : '\n' ∉ line.toList) (language : Language)
    (code : String) : render line language code = unlines (rendered line language code) :=
  renderUnder_eq_unlines (newline_not_mem_withoutReturns h) language _ code

/-- The lines of a rendered block are single lines. -/
theorem newline_not_mem_rendered {line : String} (h : '\n' ∉ line.toList) (language : Language)
    (code : String) : ∀ l ∈ rendered line language code, '\n' ∉ l.toList :=
  newline_not_mem_linesUnder (newline_not_mem_withoutReturns h) _ _ _

/-! ## Fences -/

/-- Indentation is blank. -/
private theorem isBlank_of_mem_indentation {line : String} :
    ∀ c ∈ (indentation line).toList, isBlank c = true := by
  intro c hc
  rw [indentation, String.toList_ofList] at hc
  exact isBlank_of_mem_leadingBlanks hc

/-- Carriage returns are blank. -/
private theorem isBlank_of_mem_returns {n : Nat} : ∀ c ∈ (returns n).toList, isBlank c = true := by
  intro c hc
  rw [returns, String.toList_ofList] at hc
  rw [List.eq_of_mem_replicate hc]
  decide

/-- Indentation and carriage returns make no difference to what a line closes. -/
theorem closes_indented (line l : String) (n : Nat) :
    closes (indentation line ++ l ++ returns n) = closes l := by
  simp only [closes, String.toList_append]
  rw [trim_append_append isBlank_of_mem_indentation isBlank_of_mem_returns]

/-- The first line of a block opens it. -/
theorem opens_indented_fence (line tag : String) :
    opens (indentation line ++ fence ++ tag) = true := by
  have hfence : trimLeft (fence.toList ++ tag.toList) = fence.toList ++ tag.toList := by
    simp [trimLeft, fence, isBlank]
  simp only [opens, String.toList_append, List.append_assoc]
  rw [trimLeft_append isBlank_of_mem_indentation, hfence]
  simp

/-- No line of the code is taken for the end of a block. -/
def Unfenced (code : String) : Prop := ∀ l ∈ split '\n' code, closes l = false

instance (code : String) : Decidable (Unfenced code) :=
  inferInstanceAs (Decidable (∀ l ∈ split '\n' code, closes l = false))

/-- Dropping carriage returns changes lines only behind their last visible character. -/
theorem map_trimRight_cut_dropReturns (cs : List Char) :
    (cut '\n' (dropReturns cs)).map trimRight = (cut '\n' cs).map trimRight := by
  fun_induction dropReturns cs with
  | case1 cs ih =>
    -- A carriage return at the end of a line is a blank, so trimming drops it.
    have hreturn : trimRight ['\r'] = trimRight [] := by decide
    have hpair : cut '\n' ('\r' :: '\n' :: cs) = ['\r'] :: cut '\n' cs :=
      @cut_append '\n' ['\r'] (by decide) cs
    have hnewline : cut '\n' ('\n' :: dropReturns cs) = [] :: cut '\n' (dropReturns cs) := by
      simp only [cut, if_true]
    rw [hpair, hnewline, List.map_cons, List.map_cons, ih, hreturn]
  | case2 c cs _ ih =>
    simp only [cut]
    split
    · rw [List.map_cons, List.map_cons, ih]
    -- There is always a first line, and it is the one that gets the character.
    · cases hleft : cut '\n' (dropReturns cs) with
      | nil => exact absurd hleft (cut_ne_nil _ _)
      | cons l ls =>
        cases hright : cut '\n' cs with
        | nil => exact absurd hright (cut_ne_nil _ _)
        | cons r rs =>
          simp only [hleft, hright, List.map_cons, List.cons.injEq] at ih
          simp only [List.map_cons, trimRight_cons, ih.1, ih.2]
  | case3 => rfl

/-- Code is unfenced if no line of it, without its blanks, is a fence. -/
private theorem unfenced_iff {code : String} :
    Unfenced code ↔ ∀ t ∈ (cut '\n' code.toList).map trimRight, trimLeft t ≠ fence.toList := by
  simp [Unfenced, split, closes, trim_eq]

/-- Carriage returns in front of newlines hide no fence. -/
private theorem unfenced_dropReturns {code : String} :
    Unfenced (String.ofList (dropReturns code.toList)) ↔ Unfenced code := by
  rw [unfenced_iff, unfenced_iff, String.toList_ofList, map_trimRight_cut_dropReturns]

/-- The same holds if they are dropped more than once. -/
private theorem unfenced_withoutReturnPairs {code : String} (n : Nat) :
    Unfenced (withoutReturnPairs n code) ↔ Unfenced code := by
  induction n generalizing code with
  | zero => rfl
  | succ n ih => exact ih.trans unfenced_dropReturns

/-- Only the lines of the code matter, not the empty text behind a final newline. -/
theorem unfenced_iff_lines {code : String} :
    Unfenced code ↔ ∀ l ∈ lines code, closes l = false := by
  refine ⟨fun h l hl => h l (mem_split_of_mem_lines hl), fun h l hl => ?_⟩
  by_cases hempty : l = ""
  · rw [hempty]
    decide
  · exact h l (mem_lines_of_mem_split hl hempty)

/-- The lines between the fences of a block close it just as those of the code do. -/
theorem unfenced_iff_inner {code : String} (line : String) (n : Nat) :
    (∀ l ∈ (lines (withoutReturnPairs n code)).map (indentation line ++ · ++ returns n),
      closes l = false) ↔ Unfenced code := by
  rw [← unfenced_withoutReturnPairs n, unfenced_iff_lines, List.forall_mem_map]
  simp only [closes_indented]

/-! ## Where a block ends -/

/-- A block reaches from an opening line to the first closing line behind it. -/
theorem length?_fenced {first last : String} (inner : List String) (hfirst : opens first = true)
    (hlast : closes last = true) (behind : List String) :
    length? (first :: (inner ++ last :: behind)) =
      some ((inner.findIdx? closes).getD inner.length + 2) := by
  have hindex : (inner ++ last :: behind).findIdx? closes =
      some ((inner.findIdx? closes).getD inner.length) := by
    rw [List.findIdx?_append]
    cases inner.findIdx? closes with
    | some i => rfl
    | none => simp [hlast, List.findIdx?_cons]
  simp only [length?, hfirst, Bool.not_true, Bool.false_eq_true, if_false, hindex, Option.map_some]

/-- The first closing line is one of some lines, or stands behind them. -/
theorem findIdx?_getD_le (inner : List String) :
    (inner.findIdx? closes).getD inner.length ≤ inner.length := by
  cases hindex : inner.findIdx? closes with
  | none => exact Nat.le_refl _
  | some i =>
    obtain ⟨hlt, -⟩ := List.findIdx?_eq_some_iff_getElem.1 hindex
    exact Nat.le_of_lt hlt

/-- A block goes on to its last line if none of its lines closes it. -/
private theorem findIdx?_getD_eq_length_iff {inner : List String} :
    (inner.findIdx? closes).getD inner.length = inner.length ↔ ∀ l ∈ inner, closes l = false := by
  rw [← List.findIdx?_eq_none_iff]
  cases hindex : inner.findIdx? closes with
  | none => simp
  | some i =>
    obtain ⟨hlt, -⟩ := List.findIdx?_eq_some_iff_getElem.1 hindex
    simp only [Option.getD_some, reduceCtorEq, iff_false]
    omega

/-- A block with no closing line inside ends with its last line. -/
theorem length?_of_fences {first last : String} {inner : List String} (hfirst : opens first = true)
    (hinner : ∀ l ∈ inner, closes l = false) (hlast : closes last = true) (behind : List String) :
    length? (first :: (inner ++ last :: behind)) = some (inner.length + 2) := by
  rw [length?_fenced inner hfirst hlast, findIdx?_getD_eq_length_iff.2 hinner]

/-- The block at the head of some lines is passed over as a whole. -/
theorem write_eq_ok_iff {line block code : String} {language : Language} :
    write line language code = .ok block ↔ fits line = true ∧
    block = render line language code := by
  unfold write
  cases fits line <;> simp [eq_comm]

/-- A block is not written only if its line has too many carriage returns. -/
theorem write_eq_error_iff {line code : String} {language : Language} {e : Failure} :
    write line language code = .error e ↔ fits line = false ∧ e = .fault Fault.tooDeepInCall := by
  unfold write
  cases fits line <;> simp [eq_comm]

/-- Behind a line, an old block is skipped if it has an end. -/
theorem skip_zero_eq_ok_iff {ls : List String} {uri : String} {n : Nat} :
    skip ls 0 uri = .ok n ↔ length? ls = some n := by
  unfold skip
  rw [List.drop_zero]
  cases length? ls with
  | none => simp
  | some k => simp

/-- A block is part of the lines that it starts. -/
theorem le_length_of_length? {ls : List String} {n : Nat} (h : length? ls = some n) :
    n ≤ ls.length := by
  cases ls with
  | nil => simp only [length?, Option.some.injEq] at h; omega
  | cons first rest =>
    simp only [length?] at h
    split at h
    · simp only [Option.some.injEq] at h; omega
    -- The line that closes the block is one of the lines behind the first.
    · obtain ⟨k, hk, rfl⟩ := Option.map_eq_some_iff.1 h
      obtain ⟨hlt, -⟩ := List.findIdx?_eq_some_iff_getElem.1 hk
      rw [List.length_cons]
      omega

/-- A rendered block is an opening line, lines of code and a closing line. -/
theorem rendered_eq (line : String) (language : Language) (code : String) :
    ∃ first inner last, rendered line language code = first :: (inner ++ [last]) ∧
      opens first = true ∧ closes last = true ∧
      ((∀ l ∈ inner, closes l = false) ↔ Unfenced code) := by
  -- The frame is that of the bare line, and the carriage returns are put behind every line.
  let n := finalReturns line
  let bare := withoutReturns line
  refine ⟨indentation bare ++ fence ++ (language.tag ++ returns n),
    (lines (withoutReturnPairs n code)).map (indentation bare ++ · ++ returns n),
    indentation bare ++ fence ++ returns n, ?_, ?_, ?_, unfenced_iff_inner bare n⟩
  · simp [rendered, linesUnder, plainLines, n, bare, Function.comp_def, String.append_assoc]
  · exact opens_indented_fence bare _
  · rw [closes_indented]
    decide

/-- A block is recognised whatever follows it: as a whole if it holds unfenced code, and otherwise
    up to a line within it. -/
theorem exists_length?_rendered_append (line : String) (language : Language) (code : String)
    (behind : List String) :
    ∃ n ≤ (rendered line language code).length,
      length? (rendered line language code ++ behind) = some n ∧
        (n = (rendered line language code).length ↔ Unfenced code) := by
  obtain ⟨first, inner, last, heq, hfirst, hlast, hinner⟩ := rendered_eq line language code
  -- The first and the last line stand around the inner ones.
  have hlength : (rendered line language code).length = inner.length + 2 := by simp [heq]
  have hle := findIdx?_getD_le inner
  refine ⟨(inner.findIdx? closes).getD inner.length + 2, by omega, ?_, ?_⟩
  · rw [heq, List.cons_append, List.append_assoc, List.singleton_append,
      length?_fenced inner hfirst hlast]
  · rw [hlength, Nat.add_right_cancel_iff, findIdx?_getD_eq_length_iff, hinner]

/-- A block of unfenced code ends where it was written to end. -/
theorem length?_rendered_append {code : String} (h : Unfenced code) (line : String)
    (language : Language) (behind : List String) :
    length? (rendered line language code ++ behind) =
      some (rendered line language code).length := by
  obtain ⟨n, -, hlength, hwhole⟩ := exists_length?_rendered_append line language code behind
  rw [hlength, hwhole.2 h]

/-! ## Reading blocks back -/

/-- A rendered block is read as its lines. -/
private theorem lines_render {line : String} (h : '\n' ∉ line.toList) (language : Language)
    (code : String) : lines (render line language code) = rendered line language code := by
  obtain ⟨first, inner, last, heq, -⟩ := rendered_eq line language code
  have hne : rendered line language code ≠ [] := by simp [heq]
  rw [render_eq_unlines h, lines_unlines hne (newline_not_mem_rendered h language code)]

/-- The lines of a block are passed over as a block of their own, whatever follows them.  They are
    so as a whole if no line of the code is taken for the end of the block, and only then. -/
theorem skip_render {line : String} (h : '\n' ∉ line.toList) (language : Language) (code : String)
    (behind : List String) (uri : String) :
    ∃ n ≤ (lines (render line language code)).length,
      skip (lines (render line language code) ++ behind) 0 uri = .ok n ∧
        (n = (lines (render line language code)).length ↔ Unfenced code) := by
  rw [lines_render h]
  simp only [skip_zero_eq_ok_iff]
  exact exists_length?_rendered_append line language code behind

/-- An indented directive line that ends in a carriage return. -/
def sampleLine : String := "  <!-- pluck(\"go\", \"file\", \"n\", \"a\", 0, 0) -->\r"

/-- Code with a longer fence on one of its lines is skipped as a whole. -/
theorem skip_render_sample :
    '\n' ∉ sampleLine.toList ∧ Unfenced "a\r\n````\n" ∧
      ∃ n ≤ (lines (render sampleLine .go "a\r\n````\n")).length,
        skip (lines (render sampleLine .go "a\r\n````\n") ++ ["```"]) 0 "a" = .ok n ∧
          (n = (lines (render sampleLine .go "a\r\n````\n")).length ↔ Unfenced "a\r\n````\n") :=
  have h : '\n' ∉ sampleLine.toList := by decide
  ⟨h, by decide, skip_render h .go "a\r\n````\n" ["```"] "a"⟩

/-- Code with a line that ends blocks: its block has three lines, and two of them are passed
    over. -/
theorem skip_render_fenced :
    let rendering := lines (render sampleLine .go "```\n")
    Directive.marked sampleLine = true ∧ rendering.length = 3 ∧
      skip (rendering ++ []) 0 "a" = .ok 2 :=
  ⟨by decide, by decide, rfl⟩

end Transclude.CodeBlock
