import Transclude.Text.Line

/-!
# Lines and texts

`Text.lines` cuts a text and `Text.unlines` puts lines together again.  Lines
that hold no newline come back as they were (`lines_unlines`), and a text comes
back with a final newline (`unlines_lines`).
-/

namespace Transclude.Text

/-! ## Cutting -/

/-- A text without the separator is its only piece. -/
theorem cut_of_not_mem {sep : Char} {cs : List Char} (h : sep ∉ cs) : cut sep cs = [cs] := by
  induction cs with
  | nil => rfl
  | cons c cs ih =>
    simp only [List.mem_cons, not_or] at h
    have hc : ¬c = sep := fun he => h.1 he.symm
    simp only [cut, hc, if_false, ih h.2]

/-- The first separator ends the first piece. -/
theorem cut_append {sep : Char} {cs : List Char} (h : sep ∉ cs) (rest : List Char) :
    cut sep (cs ++ sep :: rest) = cs :: cut sep rest := by
  induction cs with
  | nil => simp only [List.nil_append, cut, if_true]
  | cons c cs ih =>
    simp only [List.mem_cons, not_or] at h
    have hc : ¬c = sep := fun he => h.1 he.symm
    simp only [List.cons_append, cut, hc, if_false, ih h.2]

/-- A separator at the end makes an empty last piece. -/
theorem cut_append_singleton (sep : Char) (cs : List Char) :
    cut sep (cs ++ [sep]) = cut sep cs ++ [[]] := by
  -- The separator at the end opens one more piece, and it is empty.
  induction cs with
  | nil => simp only [List.nil_append, cut, if_true, List.singleton_append]
  | cons c cs ih =>
    simp only [List.cons_append, cut]
    split
    · rw [ih, List.cons_append]
    · rw [ih]
      cases hcut : cut sep cs with
      | nil => exact absurd hcut (cut_ne_nil sep cs)
      | cons piece pieces => rfl

/-- No piece holds the separator. -/
theorem not_mem_of_mem_cut {sep : Char} {cs piece : List Char} (h : piece ∈ cut sep cs) :
    sep ∉ piece := by
  induction cs generalizing piece with
  | nil =>
    simp only [cut, List.mem_singleton] at h
    simp [h]
  | cons c cs ih =>
    simp only [cut] at h
    split at h
    · rcases List.mem_cons.1 h with rfl | h
      · simp
      · exact ih h
    · rename_i hc
      cases hcut : cut sep cs with
      | nil => exact absurd hcut (cut_ne_nil sep cs)
      | cons first pieces =>
        simp only [hcut, List.mem_cons] at h
        rcases h with rfl | h
        · have hfirst := ih (by rw [hcut]; exact List.mem_cons_self)
          simp only [List.mem_cons, not_or]
          exact ⟨fun he => hc he.symm, hfirst⟩
        · exact ih (by rw [hcut]; exact List.mem_cons_of_mem _ h)

/-- The pieces, each with a separator behind it, are the text with one more separator. -/
theorem flatMap_cut (sep : Char) (cs : List Char) :
    (cut sep cs).flatMap (· ++ [sep]) = cs ++ [sep] := by
  -- A separator closes the piece, and any other character goes into it.
  induction cs with
  | nil => rfl
  | cons c cs ih =>
    simp only [cut]
    split
    · rename_i hc
      simp only [List.flatMap_cons, List.nil_append, ih, hc, List.cons_append]
    · cases hcut : cut sep cs with
      | nil => exact absurd hcut (cut_ne_nil sep cs)
      | cons piece pieces =>
        rw [hcut, List.flatMap_cons] at ih
        simp only [List.flatMap_cons, List.cons_append, ih]

/-- A piece is a part of the text. -/
theorem subset_of_mem_cut {sep : Char} {cs piece : List Char} (h : piece ∈ cut sep cs) :
    piece ⊆ cs := by
  intro c hc
  have hmem : c ∈ cs ++ [sep] := by
    rw [← flatMap_cut]
    exact List.mem_flatMap.2 ⟨piece, h, List.mem_append_left _ hc⟩
  rcases List.mem_append.1 hmem with hmem | hmem
  · exact hmem
  · exact absurd (List.mem_singleton.1 hmem ▸ hc) (not_mem_of_mem_cut h)

/-- Pieces without the separator, put together with it between them, are cut apart again. -/
theorem cut_dropLast_flatMap {sep : Char} {pieces : List (List Char)} (hne : pieces ≠ [])
    (h : ∀ piece ∈ pieces, sep ∉ piece) :
    cut sep (pieces.flatMap (· ++ [sep])).dropLast = pieces := by
  -- The last separator is dropped, so the last piece is followed by nothing.
  induction pieces with
  | nil => exact absurd rfl hne
  | cons piece pieces ih =>
    have hpiece := h piece List.mem_cons_self
    rw [List.flatMap_cons]
    cases pieces with
    | nil =>
      rw [List.flatMap_nil, List.append_nil, List.dropLast_concat, cut_of_not_mem hpiece]
    | cons second rest =>
      have hrest : ((second :: rest).flatMap (· ++ [sep])) ≠ [] := by simp
      rw [List.dropLast_append_of_ne_nil hrest, List.append_assoc, List.singleton_append,
        cut_append hpiece, ih (by simp) fun p hp => h p (List.mem_cons_of_mem _ hp)]

/-! ## The final newline -/

/-- A newline at the end is dropped. -/
private theorem dropFinalNewline_append (cs : List Char) :
    dropFinalNewline (cs ++ ['\n']) = cs := by
  simp [dropFinalNewline]

/-- A newline that is dropped and put back makes a terminated text. -/
private theorem dropFinalNewline_append_newline (cs : List Char) :
    dropFinalNewline cs ++ ['\n'] = terminated cs := by
  unfold dropFinalNewline terminated
  split
  · rename_i h
    obtain ⟨init, rfl⟩ := List.getLast?_eq_some_iff.1 h
    rw [List.dropLast_concat]
  · rfl

/-- It makes no difference to the lines whether the last one is terminated. -/
theorem dropFinalNewline_terminated (cs : List Char) :
    dropFinalNewline (terminated cs) = dropFinalNewline cs := by
  rw [← dropFinalNewline_append_newline, dropFinalNewline_append]

/-! ## Lines -/

/-- Every text has a line. -/
theorem lines_ne_nil (s : String) : lines s ≠ [] := by
  simp only [lines, ne_eq, List.map_eq_nil_iff]
  exact cut_ne_nil _ _

/-- No line holds a newline. -/
theorem newline_not_mem_of_mem_lines {s line : String} (h : line ∈ lines s) :
    '\n' ∉ line.toList := by
  obtain ⟨piece, hpiece, rfl⟩ := List.mem_map.1 h
  rw [String.toList_ofList]
  exact not_mem_of_mem_cut hpiece

/-- A line is a piece between two newlines. -/
theorem mem_split_of_mem_lines {s line : String} (h : line ∈ lines s) : line ∈ split '\n' s := by
  -- A newline at the end opens no further line.
  obtain ⟨piece, hpiece, rfl⟩ := List.mem_map.1 h
  apply List.mem_map_of_mem
  unfold dropFinalNewline at hpiece
  split at hpiece
  · rename_i hlast
    obtain ⟨init, hinit⟩ := List.getLast?_eq_some_iff.1 hlast
    rw [hinit, List.dropLast_concat] at hpiece
    rw [hinit, cut_append_singleton]
    exact List.mem_append_left _ hpiece
  · exact hpiece

/-- A part of a text has the characters of the text. -/
theorem subset_of_mem_split {sep : Char} {s part : String} (h : part ∈ split sep s) :
    part.toList ⊆ s.toList := by
  obtain ⟨piece, hpiece, rfl⟩ := List.mem_map.1 h
  rw [String.toList_ofList]
  exact subset_of_mem_cut hpiece

/-- A line of a text has the characters of the text. -/
theorem subset_of_mem_lines {s line : String} (h : line ∈ lines s) : line.toList ⊆ s.toList :=
  subset_of_mem_split (mem_split_of_mem_lines h)

/-- A piece between two newlines is a line, unless nothing stands there. -/
theorem mem_lines_of_mem_split {s line : String} (h : line ∈ split '\n' s) (hne : line ≠ "") :
    line ∈ lines s := by
  -- Only the empty piece behind the last newline is left out.
  obtain ⟨piece, hpiece, rfl⟩ := List.mem_map.1 h
  apply List.mem_map_of_mem
  unfold dropFinalNewline
  split
  · rename_i hlast
    obtain ⟨init, hinit⟩ := List.getLast?_eq_some_iff.1 hlast
    rw [hinit, cut_append_singleton, List.mem_append, List.mem_singleton] at hpiece
    rw [hinit, List.dropLast_concat]
    exact hpiece.resolve_right fun hnil => hne (by rw [hnil])
  · exact hpiece

/-- Terminating a text does not change its lines. -/
theorem lines_terminated (s : String) : lines (String.ofList (terminated s.toList)) = lines s := by
  simp only [lines, String.toList_ofList, dropFinalNewline_terminated]

@[simp] theorem unlines_nil : unlines [] = "" := String.join_nil

/-- The first line is written with its newline. -/
theorem unlines_cons (line : String) (ls : List String) :
    unlines (line :: ls) = line ++ "\n" ++ unlines ls := by
  simp only [unlines, List.map_cons, String.join_cons]

/-- Lines can be written in two parts. -/
theorem unlines_append (ls ms : List String) : unlines (ls ++ ms) = unlines ls ++ unlines ms := by
  simp only [unlines, List.map_append, String.join_append]

/-- A line that is written out leaves a newline at least. -/
theorem unlines_ne_empty {ls : List String} (h : ls ≠ []) : unlines ls ≠ "" := by
  cases ls with
  | nil => exact absurd rfl h
  | cons line ls =>
    intro he
    rw [unlines_cons, ← String.toList_inj] at he
    simp at he

/-- Lines written out, as characters. -/
theorem toList_unlines (ls : List String) :
    (unlines ls).toList = (ls.map String.toList).flatMap (· ++ ['\n']) := by
  induction ls with
  | nil => simp
  | cons line ls ih =>
    rw [unlines_cons, String.toList_append, String.toList_append, ih, List.map_cons,
      List.flatMap_cons]
    rfl

/-- Lines that are written out and read back are the same lines. -/
theorem lines_unlines {ls : List String} (hne : ls ≠ []) (h : ∀ line ∈ ls, '\n' ∉ line.toList) :
    lines (unlines ls) = ls := by
  have hpieces : ls.map String.toList ≠ [] := by simpa using hne
  have hfree : ∀ piece ∈ ls.map String.toList, '\n' ∉ piece := by simpa using h
  -- The text ends with a newline, and the last one is not cut away.
  have hlast : ((ls.map String.toList).flatMap (· ++ ['\n'])).getLast? = some '\n' := by
    rw [← List.dropLast_concat_getLast hpieces, List.flatMap_append]
    simp
  unfold lines dropFinalNewline
  rw [toList_unlines, if_pos hlast, cut_dropLast_flatMap hpieces hfree, List.map_map]
  simp [Function.comp_def]

/-- A text that is read as lines and written out again has a final newline. -/
theorem unlines_lines (s : String) : unlines (lines s) = String.ofList (terminated s.toList) := by
  rw [← String.toList_inj, toList_unlines, lines, List.map_map, String.toList_ofList]
  simp only [Function.comp_def, String.toList_ofList, List.map_id']
  rw [flatMap_cut, dropFinalNewline_append_newline]

end Transclude.Text
