import Transclude.Proofs.List
import Transclude.Proofs.Snippet
import Transclude.Proofs.Text.Line

/-!
# Windows

The lines of a body are its pieces between newlines, without an empty one at either end
(`areLines_bodyLines`).  A range that is not one of the two with a meaning of their own cuts them
in three, and shows those in the middle (`Shows.part`).  So the windows of ranges that follow
each other show each line once, and the window of all lines is that of the body; `Windowing`
states this of a snippet, and `windowing` proves it of every snippet.
-/

namespace Transclude.Snippet

/-! ## Lines of a body -/

/-- The lines are the pieces of a body between its newlines, without an empty first one and without
    an empty last one of those that are left. -/
def AreLines (pieces lines : List String) : Prop :=
  ∃ front back, pieces = front ++ (lines ++ back) ∧
    (front = [""] ∨ front = [] ∧ pieces.head? ≠ some "") ∧
    (back = [""] ∨ back = [] ∧ lines.getLast? ≠ some "")

/-- The lines that count are the lines of the body without empty ones at its ends. -/
private theorem areLines_bodyLines (body : String) :
    AreLines (Text.split '\n' body) (bodyLines body) := by
  -- One empty piece at the end is left out, and there may be none.
  have hback : ∀ ls : List String, ∃ back,
      ls = (if ls.getLast? = some "" then ls.dropLast else ls) ++ back ∧
        (back = [""] ∨ back = [] ∧
          (if ls.getLast? = some "" then ls.dropLast else ls).getLast? ≠ some "") := by
    intro ls
    by_cases hlast : ls.getLast? = some ""
    · obtain ⟨init, rfl⟩ := List.getLast?_eq_some_iff.1 hlast
      exact ⟨[""], by simp, .inl rfl⟩
    · exact ⟨[], by simp [hlast], .inr ⟨rfl, by simp [hlast]⟩⟩
  unfold bodyLines
  generalize Text.split '\n' body = pieces
  dsimp only
  -- An empty piece at the front is left out as well.
  split
  · rename_i rest
    obtain ⟨back, hrest, hempty⟩ := hback rest
    exact ⟨[""], back, by rw [← hrest]; rfl, .inl rfl, hempty⟩
  · rename_i hfirst
    obtain ⟨back, hpieces, hempty⟩ := hback pieces
    refine ⟨[], back, hpieces, .inr ⟨rfl, fun hhead => ?_⟩, hempty⟩
    obtain ⟨rest, hrest⟩ := List.head?_eq_some_iff.1 hhead
    exact hfirst rest hrest

/-- The lines of a body that neither starts with an empty line nor lacks its last newline are the
    body. -/
theorem unlines_bodyLines {body : String} (hend : body.toList.getLast? = some '\n')
    (hstart : body.toList.head? ≠ some '\n') : Text.unlines (bodyLines body) = body := by
  obtain ⟨init, hinit⟩ := List.getLast?_eq_some_iff.1 hend
  have hcut : Text.cut '\n' body.toList = Text.cut '\n' init ++ [[]] := by
    rw [hinit, Text.cut_append_singleton]
  cases hpieces : Text.cut '\n' init with
  | nil => exact absurd hpieces (Text.cut_ne_nil _ _)
  | cons first rest =>
    -- A body that does not start with a newline has no empty first line.
    have hfirst : first ≠ [] := by
      rintro rfl
      rw [hpieces] at hcut
      cases rest with
      | nil => exact hstart (head?_of_cut hcut)
      | cons => exact hstart (head?_of_cut hcut)
    have hsplit : Text.split '\n' body =
        String.ofList first :: rest.map String.ofList ++ [""] := by
      rw [Text.split, hcut, hpieces]
      simp
    rw [bodyLines_eq hsplit (by simpa using hfirst), if_pos rfl, List.append_nil,
      ← List.map_cons (f := String.ofList), ← hpieces, ← String.toList_inj, Text.toList_unlines,
      List.map_map, hinit]
    simp only [Function.comp_def, String.toList_ofList, List.map_id']
    exact Text.flatMap_cut '\n' init

/-! ## Ranges -/

/-- The ranges of a body with `n` lines. -/
def InRange (n : Nat) (start stop : Int) : Prop :=
  start = -1 ∧ stop = -1 ∨ start = 0 ∧ stop = 0 ∨ 0 ≤ start ∧ start ≤ stop ∧ stop ≤ n

/-- Lines of a body, with an ellipsis at an end where others are left out. -/
def excerpt (ellipsis : String) (before chosen behind : List String) : String :=
  (if before = [] then "" else ellipsis) ++ Text.unlines chosen ++
    if behind = [] then "" else ellipsis

/-- What a range shows of a body with some lines. -/
inductive Shows (ellipsis body : String) (lines : List String) : Int → Int → String → Prop where
  | outline : Shows ellipsis body lines (-1) (-1) ellipsis
  | whole : Shows ellipsis body lines 0 0 body
  | part {start stop : Nat} {before chosen behind : List String}
    (hlines : lines = before ++ (chosen ++ behind)) (hstart : start = before.length)
    (hstop : stop = before.length + chosen.length) (hsome : 0 < stop) :
    Shows ellipsis body lines start stop (excerpt ellipsis before chosen behind)

/-- Something is shown exactly for a range that the lines have. -/
private theorem exists_shows_iff {ellipsis body : String} {lines : List String} {start stop : Int} :
    (∃ middle, Shows ellipsis body lines start stop middle) ↔ InRange lines.length start stop := by
  constructor
  · rintro ⟨middle, h⟩
    cases h with
    | outline => exact .inl ⟨rfl, rfl⟩
    | whole => exact .inr (.inl ⟨rfl, rfl⟩)
    | part hlines hstart hstop =>
      refine .inr (.inr ?_)
      rw [hlines]
      simp only [List.length_append]
      omega
  -- A range that is allowed shows no line, the whole body or a part of it.
  · rintro (⟨rfl, rfl⟩ | ⟨rfl, rfl⟩ | ⟨hstart, hle, hstop⟩)
    · exact ⟨_, .outline⟩
    · exact ⟨_, .whole⟩
    · lift start to Nat using hstart
      lift stop to Nat using by omega
      rcases Nat.eq_zero_or_pos stop with rfl | hsome
      · obtain rfl : start = 0 := by omega
        exact ⟨_, .whole⟩
      -- The list is cut where the indices say, and the cut holds as many lines.
      · obtain ⟨hlines, hbefore, hchosen⟩ :=
          @extract_spec _ lines start stop (by omega) (by omega)
        exact ⟨_, .part hlines hbefore hchosen hsome⟩

/-- What is to be shown is what is shown. -/
private theorem Shows.shown_eq {body ellipsis middle : String} {start stop : Int}
    (h : Shows ellipsis body (bodyLines body) start stop middle) :
    shown body start stop ellipsis = .ok middle := by
  unfold shown
  generalize bodyLines body = lines at h
  cases h with
  | outline => rfl
  | whole => rfl
  | @part start stop before chosen behind hlines hstart hstop hsome =>
    -- No index of a part is one of the two that stand for something else.
    have houtline : ¬((start : Int) = -1) := by omega
    have hwhole : ¬((start : Int) = 0 ∧ (stop : Int) = 0) := by omega
    have hlength : lines.length = stop + behind.length := by
      rw [hlines, List.length_append, List.length_append]
      omega
    have hfront : (start : Int) = 0 ↔ before = [] := by
      rw [← List.length_eq_zero_iff]
      omega
    have hback : (stop : Int) = lines.length ↔ behind = [] := by
      rw [← List.length_eq_zero_iff]
      omega
    have hchosen : (lines.take stop).drop start = chosen := by
      rw [hlines, hstart, hstop, ← List.append_assoc, List.take_left' List.length_append,
        List.drop_left]
    simp only [Bool.and_eq_true, Bool.or_eq_true, decide_eq_true_eq, Int.toNat_natCast]
    rw [if_neg fun h => houtline h.1, if_neg hwhole, if_neg (by omega), hchosen]
    simp only [hfront, hback, excerpt]

/-- A range that the lines do not have is refused. -/
private theorem shown_of_not_inRange {body ellipsis : String} {start stop : Int}
    (h : ¬InRange (bodyLines body).length start stop) :
    shown body start stop ellipsis =
      .error (.of (.invalidRange start stop (bodyLines body).length)) := by
  unfold shown
  simp only [InRange, not_or] at h
  obtain ⟨houtline, hwhole, hrange⟩ := h
  simp only [Bool.and_eq_true, Bool.or_eq_true, decide_eq_true_eq, if_neg houtline, if_neg hwhole]
  exact if_pos (by omega)

/-- What is shown is exactly what is to be shown. -/
private theorem shown_eq_ok_iff {body ellipsis middle : String} {start stop : Int} :
    shown body start stop ellipsis = .ok middle ↔
      Shows ellipsis body (bodyLines body) start stop middle := by
  refine ⟨fun h => ?_, Shows.shown_eq⟩
  -- In the range something can be shown, and it is what `shown` gives.
  by_cases hrange : InRange (bodyLines body).length start stop
  · obtain ⟨other, hother⟩ := (@exists_shows_iff ellipsis body _ _ _).2 hrange
    have heq := hother.shown_eq
    rw [h] at heq
    cases heq
    exact hother
  · rw [shown_of_not_inRange hrange] at h
    cases h

/-! ## Windows -/

/-- What is shown of the body, behind the definition and between the braces if there are any. -/
def framed (s : Snippet) (middle : String) : String :=
  s.definition ++ (if s.braced then "\x7b\n" else "") ++ middle ++ if s.braced then "\x7d\n" else ""

/-- A window is what is shown, in the frame of the excerpt. -/
private theorem window_eq (s : Snippet) (start stop : Int) (ellipsis : String) :
    s.window start stop ellipsis = (shown s.body start stop ellipsis).map s.framed := by
  unfold window framed
  cases shown s.body start stop ellipsis with
  | error e => rfl
  | ok middle => cases s.braced <;> simp [Except.map, bind, Except.bind, pure, Except.pure]

/-- A window is exactly what is to be shown, in the frame of the excerpt. -/
private theorem window_eq_ok_iff {s : Snippet} {start stop : Int} {ellipsis code : String} :
    s.window start stop ellipsis = .ok code ↔
      ∃ middle, Shows ellipsis s.body (bodyLines s.body) start stop middle ∧
        code = s.framed middle := by
  simp only [window_eq, ← shown_eq_ok_iff]
  cases shown s.body start stop ellipsis <;> simp [Except.map, eq_comm]

/-- There is a window exactly for a range that the lines have. -/
theorem exists_window_iff {s : Snippet} {start stop : Int} {ellipsis : String} :
    (∃ code, s.window start stop ellipsis = .ok code) ↔
      InRange (bodyLines s.body).length start stop := by
  rw [← @exists_shows_iff ellipsis s.body]
  constructor
  · rintro ⟨code, hcode⟩
    obtain ⟨middle, hmiddle, -⟩ := window_eq_ok_iff.1 hcode
    exact ⟨middle, hmiddle⟩
  · rintro ⟨middle, hmiddle⟩
    exact ⟨_, window_eq_ok_iff.2 ⟨middle, hmiddle, rfl⟩⟩

/-- A window for a range that the lines do not have is refused. -/
theorem window_of_not_inRange {s : Snippet} {start stop : Int}
    (h : ¬InRange (bodyLines s.body).length start stop) (ellipsis : String) :
    s.window start stop ellipsis =
      .error (.of (.invalidRange start stop (bodyLines s.body).length)) := by
  rw [window_eq, shown_of_not_inRange h]
  rfl

/-- All lines of a body that neither starts with an empty line nor lacks its last newline are shown
    as the body is. -/
theorem window_whole {s : Snippet} (hend : s.body.toList.getLast? = some '\n')
    (hstart : s.body.toList.head? ≠ some '\n') (ellipsis : String) :
    s.window 0 (bodyLines s.body).length ellipsis = s.window 0 0 ellipsis := by
  have hlines := unlines_bodyLines hend hstart
  -- A body that is not empty has a line.
  have hsome : bodyLines s.body ≠ [] := by
    intro hnil
    rw [hnil, Text.unlines_nil] at hlines
    rw [← hlines] at hend
    cases hend
  have hpart : Shows ellipsis s.body (bodyLines s.body) (0 : Nat) (bodyLines s.body).length
      (excerpt ellipsis [] (bodyLines s.body) []) :=
    .part (by simp) rfl (by simp) (List.length_pos_iff.2 hsome)
  rw [window_eq_ok_iff.2 ⟨_, .whole, rfl⟩]
  -- All lines written one after the other are the body again.
  refine window_eq_ok_iff.2 ⟨s.body, ?_, rfl⟩
  simpa [excerpt, hlines] using hpart

/-! ## Windows that follow each other -/

/-- The window of a range shows the lines `part`, which are those of the range. -/
def Displays (s : Snippet) (ellipsis : String) (lines : List String) (range : Nat × Nat)
    (part : List String) : Prop :=
  ∃ before behind, lines = before ++ (part ++ behind) ∧ range.1 = before.length ∧
    range.2 = before.length + part.length ∧
    s.window range.1 range.2 ellipsis = .ok (s.framed (excerpt ellipsis before part behind))

/-- Ranges that follow each other show all lines, each once. -/
private theorem exists_tiles (s : Snippet) (ellipsis : String) {bounds : List Nat}
    (hchain : (0 :: bounds).IsChain (· < ·))
    (hlast : (0 :: bounds).getLast (List.cons_ne_nil _ _) = (bodyLines s.body).length) :
    ∃ parts : List (List String), parts.flatten = bodyLines s.body ∧
      List.Forall₂ (s.Displays ellipsis (bodyLines s.body)) ((0 :: bounds).zip bounds) parts := by
  -- The ranges follow each other, so the parts make up the list.
  obtain ⟨-, hflatten, hranges⟩ := flatten_extract hchain hlast
  refine ⟨_, hflatten, ?_⟩
  rw [List.forall₂_map_right_iff, List.forall₂_same]
  intro range hrange
  obtain ⟨hlt, hle⟩ := hranges range hrange
  obtain ⟨hlines, hbefore, hchosen⟩ := extract_spec (Nat.le_of_lt hlt) hle
  exact ⟨_, _, hlines, hbefore, hchosen,
    window_eq_ok_iff.2 ⟨_, .part hlines hbefore hchosen (by omega), rfl⟩⟩

/-! ## All windows -/

/-- How the windows of a snippet follow from the lines of its body. -/
structure Windowing (s : Snippet) (ellipsis : String) (lines : List String) : Prop where
  /-- The lines are those of the body, an empty one at each end left out. -/
  areLines : AreLines (Text.split '\n' s.body) lines
  /-- There is a window for the two ranges with a meaning of their own and those in the lines. -/
  exists_iff : ∀ start stop,
    (∃ code, s.window start stop ellipsis = .ok code) ↔ InRange lines.length start stop
  /-- Any other range is refused. -/
  refuses : ∀ start stop, ¬InRange lines.length start stop →
    s.window start stop ellipsis = .error (.of (.invalidRange start stop lines.length))
  /-- A window is what its range shows, with the definition and the braces. -/
  ok_iff : ∀ start stop code, s.window start stop ellipsis = .ok code ↔
    ∃ middle, Shows ellipsis s.body lines start stop middle ∧ code = s.framed middle
  /-- The windows of ranges that follow each other show each line once. -/
  tiles : ∀ bounds : List Nat, (0 :: bounds).IsChain (· < ·) →
    (0 :: bounds).getLast (List.cons_ne_nil _ _) = lines.length →
    ∃ parts : List (List String), parts.flatten = lines ∧
      List.Forall₂ (s.Displays ellipsis lines) ((0 :: bounds).zip bounds) parts
  /-- The window of all lines is that of the body. -/
  whole : s.body.toList.getLast? = some '\n' → s.body.toList.head? ≠ some '\n' →
    s.window 0 lines.length ellipsis = s.window 0 0 ellipsis

/-- Windows show just the lines that are asked for. -/
theorem windowing (s : Snippet) (ellipsis : String) : Windowing s ellipsis (bodyLines s.body) where
  areLines := areLines_bodyLines s.body
  exists_iff _ _ := exists_window_iff
  refuses _ _ h := window_of_not_inRange h ellipsis
  ok_iff _ _ _ := window_eq_ok_iff
  tiles _ hchain hlast := exists_tiles s ellipsis hchain hlast
  whole hend hstart := window_whole hend hstart ellipsis

end Transclude.Snippet
