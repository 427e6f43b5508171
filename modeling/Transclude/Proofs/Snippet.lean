import Mathlib.Data.List.Forall2
import Transclude.Proofs.Text.Return
import Transclude.Snippet

/-!
# Ranges of lines with carriage returns

A body with carriage returns has the same lines, with carriage returns at their ends, if it
does not start with a newline (`bodyLines_returned`): an empty first line is left out of a
body, but not a line that holds a carriage return.  So every range shows the same of both
(`window_returned`).
-/

namespace Transclude.Snippet

/-- The second line is the first one, with a carriage return at its end or not. -/
def Ended (line line' : List Char) : Prop := Returned (line ++ ['\n']) (line' ++ ['\n'])

/-- A line that is not empty is not empty with an ending. -/
private theorem Ended.ne_nil {line line' : List Char} (h : Ended line line') (hne : line ≠ []) :
    line' ≠ [] := by
  rintro rfl
  have hle := h.length_le
  rw [List.length_append, List.length_append] at hle
  exact hne (List.length_eq_zero_iff.1 (by rw [List.length_nil] at hle; omega))

/-- The pieces between newlines are the same up to carriage returns at their ends, and the last one
    is the same. -/
theorem cut_returned {cs cs' : List Char} (h : Returned cs cs') :
    ∃ init init' last, Text.cut '\n' cs = init ++ [last] ∧ Text.cut '\n' cs' = init' ++ [last] ∧
      List.Forall₂ Ended init init' ∧ '\r' ∉ last := by
  induction h with
  | nil => exact ⟨[], [], [], rfl, rfl, .nil, by simp⟩
  | @cons c cs cs' hc _ ih =>
    obtain ⟨init, init', last, hcut, hcut', hinit, hlast⟩ := ih
    by_cases hnewline : c = '\n'
    · subst hnewline
      refine ⟨[] :: init, [] :: init', last, ?_, ?_, .cons (.cons (by decide) .nil) hinit, hlast⟩
      · simp [Text.cut, hcut]
      · simp [Text.cut, hcut']
    · simp only [Text.cut, if_neg hnewline, hcut, hcut']
      cases hinit with
      | nil => exact ⟨[], [], c :: last, rfl, rfl, .nil, by simp [Ne.symm hc, hlast]⟩
      | @cons piece piece' init init' hpiece hinit =>
        exact ⟨(c :: piece) :: init, (c :: piece') :: init', last, rfl, rfl,
          .cons (.cons hc hpiece) hinit, hlast⟩
  | @newline cs cs' _ ih =>
    obtain ⟨init, init', last, hcut, hcut', hinit, hlast⟩ := ih
    refine ⟨[] :: init, ['\r'] :: init', last, ?_, ?_, .cons (.newline .nil) hinit, hlast⟩
    · simp [Text.cut, hcut]
    -- The return stands at the end of the line, in front of its newline.
    · have hpair : Text.cut '\n' ('\r' :: '\n' :: cs') = ['\r'] :: Text.cut '\n' cs' :=
        Text.cut_append (show '\n' ∉ ['\r'] by decide) cs'
      rw [hpair, hcut']
      rfl

/-- A text whose first piece is empty, and not the only one, starts with the separator. -/
theorem head?_of_cut {sep : Char} {cs piece : List Char} {pieces : List (List Char)}
    (h : Text.cut sep cs = [] :: piece :: pieces) : cs.head? = some sep := by
  cases cs with
  | nil => cases h
  -- The first piece is not empty unless the separator stands first.
  | cons c cs =>
    by_cases hc : c = sep
    · rw [hc]
      rfl
    · rw [Text.cut, if_neg hc] at h
      split at h <;> cases h

/-- The lines of a body whose first piece is not empty are its pieces, without an empty one at the
    end. -/
theorem bodyLines_eq {body last : String} {first : String} {init : List String}
    (h : Text.split '\n' body = first :: init ++ [last]) (hfirst : first ≠ "") :
    bodyLines body = first :: init ++ if last = "" then [] else [last] := by
  -- The last line counts unless it is empty.
  have hpieces : bodyLines body = if (first :: init ++ [last]).getLast? = some "" then
      (first :: init ++ [last]).dropLast else first :: init ++ [last] := by
    unfold bodyLines
    rw [h]
    simp only [List.cons_append]
    split
    · rename_i heq
      exact absurd (List.cons.inj heq).1 hfirst
    · rfl
  rw [hpieces, List.getLast?_concat, List.dropLast_concat]
  by_cases hlast : last = "" <;> simp [hlast]

/-- Every line that counts is a line of the body. -/
private theorem mem_of_mem_bodyLines {body line : String} (h : line ∈ bodyLines body) :
    line ∈ Text.split '\n' body := by
  unfold bodyLines at h
  generalize Text.split '\n' body = pieces at h ⊢
  dsimp only at h
  -- The first line and the last one may be left out, so every line is one of the pieces.
  split at h
  · rename_i rest
    split at h
    · exact List.mem_cons_of_mem _ (List.dropLast_subset _ h)
    · exact List.mem_cons_of_mem _ h
  · split at h
    · exact List.dropLast_subset _ h
    · exact h

/-- The lines of a body that does not start with a newline are the same with carriage returns. -/
theorem bodyLines_returned {body body' : String} (h : Returned body.toList body'.toList)
    (hstart : body.toList.head? ≠ some '\n') :
    List.Forall₂ (fun line line' => Ended line.toList line'.toList) (bodyLines body)
      (bodyLines body') := by
  obtain ⟨init, init', last, hcut, hcut', hinit, hlast⟩ := cut_returned h
  cases hinit with
  | nil =>
    -- The only line has no newline, so it is the same in both.
    have hlines : bodyLines body' = bodyLines body := by
      rw [bodyLines, Text.split, hcut', bodyLines, Text.split, hcut]
    rw [hlines, List.forall₂_same]
    intro line hline
    have hmem := mem_of_mem_bodyLines hline
    rw [Text.split, hcut] at hmem
    obtain rfl : line = String.ofList last := by simpa using hmem
    rw [String.toList_ofList]
    exact (Returned.refl hlast).append (.cons (by decide) .nil)
  | @cons piece piece' init init' hpiece hinit =>
    -- The body does not start with a newline, so its first line holds something.
    have hne : piece ≠ [] := by
      rintro rfl
      cases init with
      | nil => exact hstart (head?_of_cut hcut)
      | cons => exact hstart (head?_of_cut hcut)
    have hsplit : Text.split '\n' body =
        String.ofList piece :: init.map String.ofList ++ [String.ofList last] := by
      rw [Text.split, hcut]
      simp
    have hsplit' : Text.split '\n' body' =
        String.ofList piece' :: init'.map String.ofList ++ [String.ofList last] := by
      rw [Text.split, hcut']
      simp
    -- Lines that match stay matching when the last one is left out.
    rw [bodyLines_eq hsplit (by simpa using hne),
      bodyLines_eq hsplit' (by simpa using hpiece.ne_nil hne)]
    refine List.rel_append ?_ ?_
    · refine .cons (by simpa using hpiece) ?_
      simpa only [List.forall₂_map_left_iff, List.forall₂_map_right_iff,
        String.toList_ofList] using hinit
    · split
      · exact .nil
      · refine .cons ?_ .nil
        rw [String.toList_ofList]
        exact (Returned.refl hlast).append (.cons (by decide) .nil)

/-! ## Windows -/

/-- Lines written out. -/
theorem unlines_returned {ls ls' : List String}
    (h : List.Forall₂ (fun line line' => Ended line.toList line'.toList) ls ls') :
    Returned (Text.unlines ls).toList (Text.unlines ls').toList := by
  induction h with
  | nil =>
    rw [Text.unlines_nil]
    exact .nil
  | cons hline _ ih =>
    rw [Text.unlines_cons, Text.unlines_cons, String.toList_append, String.toList_append,
      String.toList_append, String.toList_append]
    exact Returned.append hline ih

/-- A range shows the same of two bodies up to carriage returns: nothing, or all of a body as it
    is, or lines of a body that does not start with a newline. -/
inductive Matching (body body' : String) (start stop : Int) : Prop where
  | nothing (h : start = -1 ∧ stop = -1)
  | whole (h : start = 0 ∧ stop = 0) (hbody : Returned body.toList body'.toList)
  | lines (hstart : body.toList.head? ≠ some '\n') (hbody : Returned body.toList body'.toList)

/-- Of a body with carriage returns the same lines are shown, with carriage returns. -/
private theorem shown_returned {body body' ellipsis code : String} {start stop : Int}
    (hbody : Matching body body' start stop) (hellipsis : '\r' ∉ ellipsis.toList)
    (h : shown body start stop ellipsis = .ok code) :
    ∃ code', shown body' start stop ellipsis = .ok code' ∧ Returned code.toList code'.toList := by
  unfold shown at h ⊢
  -- Nothing, the whole body or a range of lines is shown.
  split at h
  · rename_i hnothing
    rw [if_pos hnothing]
    cases h
    exact ⟨_, rfl, .refl hellipsis⟩
  · rename_i hnothing
    rw [if_neg hnothing]
    split at h
    · rename_i hwhole
      rw [if_pos hwhole]
      cases h
      refine ⟨_, rfl, ?_⟩
      cases hbody with
      | nothing h => simp [h] at hnothing
      | whole _ hbody => exact hbody
      | lines _ hbody => exact hbody
    · rename_i hwhole
      rw [if_neg hwhole]
      have hlines : List.Forall₂ (fun line line' => Ended line.toList line'.toList) (bodyLines body)
          (bodyLines body') := by
        cases hbody with
        | nothing h => simp [h] at hnothing
        | whole h => simp [h] at hwhole
        | lines hstart hbody => exact bodyLines_returned hbody hstart
      dsimp only at h ⊢
      -- A range is valid for both bodies or for none, since they have the same lines.
      rw [← hlines.length_eq]
      split at h
      · cases h
      · rename_i hvalid
        rw [if_neg hvalid]
        cases h
        refine ⟨_, rfl, ?_⟩
        have hfree : ∀ b : Prop, ∀ [Decidable b], '\r' ∉ (if b then "" else ellipsis).toList := by
          intro b _
          split
          · simp
          · exact hellipsis
        simp only [String.toList_append]
        exact ((Returned.refl (hfree _)).append (unlines_returned
          (List.forall₂_drop _ (List.forall₂_take _ hlines)))).append (.refl (hfree _))

/-- A range shows the same of two snippets up to carriage returns. -/
structure Matches (s s' : Snippet) (start stop : Int) : Prop where
  braced : s'.braced = s.braced
  definition : Returned s.definition.toList s'.definition.toList
  body : Matching s.body s'.body start stop

/-- A window of an excerpt with carriage returns is the same window with carriage returns. -/
theorem window_returned {s s' : Snippet} {start stop : Int} {ellipsis code : String}
    (hs : s.Matches s' start stop) (hellipsis : '\r' ∉ ellipsis.toList)
    (h : s.window start stop ellipsis = .ok code) :
    ∃ code', s'.window start stop ellipsis = .ok code' ∧ Returned code.toList code'.toList := by
  unfold window at h ⊢
  cases hshown : shown s.body start stop ellipsis with
  | error e =>
    rw [hshown] at h
    cases h
  | ok middle =>
    rw [hshown] at h
    cases h
    obtain ⟨middle', hmiddle, hreturned⟩ := shown_returned hs.body hellipsis hshown
    rw [hmiddle, hs.braced]
    refine ⟨_, rfl, ?_⟩
    split
    · simp only [String.toList_append]
      exact ((hs.definition.append (.refl (by decide))).append hreturned).append (.refl (by decide))
    · rw [String.toList_append, String.toList_append]
      exact hs.definition.append hreturned

end Transclude.Snippet
