import Transclude.Proofs.Document.Transparency
import Transclude.Proofs.Text.Return
import Transclude.Proofs.Text.Search

/-!
# Documents with carriage returns

A document with a carriage return at the end of each line falls into the same items as
without (`Itemized.returned`), asks for the same excerpts, and its blocks are those of the
other document with the carriage returns that its directive lines have
(`CodeBlock.render_returned`).  So it renders to the same text with carriage returns, as long
as the code that each directive shows is the same up to line endings
(`render_withReturns_of_shown`).
-/

namespace Transclude

/-! ## Lines -/

/-- A line with a carriage return at its end. -/
def returned (line : String) : String := line ++ "\r"

/-- A line gets its carriage return at the end. -/
private theorem withReturns_line {line : String} (h : '\n' ∉ line.toList) :
    withReturns (line ++ "\n") = returned line ++ "\n" := by
  rw [withReturns_append, withReturns, CodeBlock.addReturns_of_not_mem h, String.ofList_toList,
    returned, String.append_assoc]
  rfl

/-- A document with carriage returns is its lines with carriage returns. -/
theorem withReturns_eq_unlines {document : String} (h : document.toList.getLast? = some '\n') :
    withReturns document = Text.unlines ((Text.lines document).map returned) := by
  have hunlines : document = Text.unlines (Text.lines document) := by
    rw [Text.unlines_lines, Text.terminated, if_pos h, String.ofList_toList]
  conv => lhs; rw [hunlines]
  exact CodeBlock.addReturns_unlines fun line => Text.newline_not_mem_of_mem_lines

/-- Every line of a document gets a carriage return. -/
private theorem lines_withReturns {document : String} (h : document.toList.getLast? = some '\n') :
    Text.lines (withReturns document) = (Text.lines document).map returned := by
  rw [withReturns_eq_unlines h]
  refine Text.lines_unlines (by simp [Text.lines_ne_nil]) fun line hline => ?_
  obtain ⟨line, hmem, rfl⟩ := List.mem_map.1 hline
  simp [returned, Text.newline_not_mem_of_mem_lines hmem]

/-! ## Directives -/

namespace Directive

/-- A word without blanks is found in front of a blank as it is without the blank. -/
theorem after?_trimLeft_append {word : List Char} (hne : word ≠ [])
    (hword : ∀ c ∈ word, Text.isBlank c = false) {b : Char} (hb : Text.isBlank b = true)
    (cs : List Char) :
    after? word (Text.trimLeft (cs ++ [b])) = (after? word (Text.trimLeft cs)).map (· ++ [b]) := by
  have htrim : Text.trimLeft (cs ++ [b]) =
      if Text.trimLeft cs = [] then [] else Text.trimLeft cs ++ [b] := by
    simp only [Text.trimLeft, List.dropWhile_append, List.isEmpty_iff, List.dropWhile_cons, hb,
      if_true, List.dropWhile_nil]
    congr
  rw [htrim]
  split
  · rename_i h
    have hnil : after? word [] = none := by
      cases word with
      | nil => exact absurd rfl hne
      | cons c word => rfl
    rw [h, hnil]
    rfl
  · unfold after?
    -- The blank stands in no word, so the word ends in front of it.
    have hstarts : word.isPrefixOf (Text.trimLeft cs ++ [b]) =
      word.isPrefixOf (Text.trimLeft cs) := by
      rw [Bool.eq_iff_iff, List.isPrefixOf_iff_prefix, List.isPrefixOf_iff_prefix]
      constructor
      · intro h
        rcases List.prefix_concat_iff.1 h with heq | h
        · have := hword b (by rw [heq]; simp)
          rw [hb] at this
          cases this
        · exact h
      · exact fun h => h.trans (List.prefix_append _ _)
    rw [hstarts]
    cases hcs : word.isPrefixOf (Text.trimLeft cs) with
    | false => rfl
    | true =>
      have hle := (List.isPrefixOf_iff_prefix.1 hcs).length_le
      simp [List.drop_append_of_le_length hle]

/-- A blank at the end of a line makes no difference to what stands between its parentheses. -/
theorem arguments?_append {b : Char} (hb : Text.isBlank b = true) (line : List Char) :
    arguments? (line ++ [b]) = arguments? line := by
  -- Trimming on the right drops the blank, and everything in front of the last token is looked
  -- for as before.
  have hright : ∀ cs, Text.trimRight (cs ++ [b]) = Text.trimRight cs := fun cs =>
    Text.trimRight_append (by simpa using hb) cs
  simp only [arguments?, Option.bind_eq_bind]
  rw [after?_trimLeft_append (by decide) (Text.forall_mem_of_all (by decide)) hb, Option.bind_map]
  congr 1
  funext rest
  rw [Function.comp_apply,
    after?_trimLeft_append (by decide) (Text.forall_mem_of_all (by decide)) hb,
    Option.bind_map]
  congr 1
  funext rest
  rw [Function.comp_apply,
    after?_trimLeft_append (by decide) (Text.forall_mem_of_all (by decide)) hb,
    Option.bind_map]
  congr 1
  funext rest
  rw [Function.comp_apply, hright]

/-- A carriage return at the end does not touch the arguments of a directive. -/
private theorem arguments?_returned (line : String) :
    arguments? (returned line).toList = arguments? line.toList := by
  rw [returned, String.toList_append]
  exact arguments?_append (by decide) _

/-- A line stays a directive with a carriage return at the end. -/
private theorem marked_returned (line : String) : marked (returned line) = marked line := by
  rw [marked, marked, arguments?_returned]

/-- An index that is read is read from the line with a carriage return. -/
private theorem parseIndex_returned {bound : Bound} {line value : String} {n : Int}
    (h : parseIndex bound line value = .ok n) : parseIndex bound (returned line) value = .ok n := by
  unfold parseIndex at h ⊢
  cases hvalue : Numeral.parseInt (Text.trim value.toList) with
  | ok m =>
    rw [hvalue] at h
    exact h
  | error fault =>
    rw [hvalue] at h
    cases h

/-- A directive line with a carriage return is the same directive.  Its errors are not the same:
    they show the line. -/
theorem parse_returned {line : String} {d : Directive} (h : parse line = .ok d) :
    parse (returned line) = .ok d := by
  unfold parse at h ⊢
  -- The arguments are the same, so both lines have the same fields.
  rw [arguments?_returned]
  cases harguments : arguments? line.toList with
  | none =>
    rw [harguments] at h
    cases h
  | some arguments =>
    rw [harguments] at h
    simp only at h ⊢
    split at h
    · rename_i language kind name source start stop _
      cases hlanguage : Language.ofString? language with
      | none =>
        rw [hlanguage] at h
        cases h
      | some language =>
        cases hkind : Kind.ofString? kind with
        | none =>
          rw [hlanguage, hkind] at h
          cases h
        | some kind =>
          rw [hlanguage, hkind] at h
          cases hstart : parseIndex .start line start.text with
          | error e =>
            rw [hstart] at h
            cases h
          | ok m =>
            cases hstop : parseIndex .stop line stop.text with
            | error e =>
              rw [hstart, hstop] at h
              cases h
            | ok n =>
              rw [hstart, hstop] at h
              -- The indexes are read from the fields, and the line is only told in errors.
              rw [parseIndex_returned hstart, parseIndex_returned hstop]
              exact h
    · cases h

/-! ### What a directive is made of -/

/-- What stands behind a word is a part of the text. -/
private theorem subset_of_after? {word cs rest : List Char}
    (h : after? word cs = some rest) : rest ⊆ cs := by
  unfold after? at h
  split at h
  · cases h
    exact List.drop_subset _ _
  · cases h

/-- What stands in front of a word is a part of the text. -/
private theorem subset_of_ahead? {word cs rest : List Char}
    (h : ahead? word cs = some rest) : rest ⊆ cs := by
  obtain ⟨behind, hbehind, rfl⟩ := Option.map_eq_some_iff.1 h
  exact fun c hc => List.mem_reverse.1 (subset_of_after? hbehind (List.mem_reverse.1 hc))

/-- Nothing is added by trimming on the left. -/
private theorem trimLeft_subset (cs : List Char) : Text.trimLeft cs ⊆ cs := List.dropWhile_subset _

/-- Nothing is added by trimming on the right. -/
private theorem trimRight_subset (cs : List Char) : Text.trimRight cs ⊆ cs := fun _ hc =>
  List.mem_reverse.1 (List.dropWhile_subset _ (List.mem_reverse.1 hc))

/-- The arguments are a part of the line. -/
private theorem arguments_subset {line arguments : List Char}
    (h : arguments? line = some arguments) :
    arguments ⊆ line := by
  simp only [arguments?, Option.bind_eq_bind, Option.bind_eq_some_iff] at h
  obtain ⟨a, ha, b, hb, c, hc, d, hd, e, he, h⟩ := h
  split at h
  · cases h
  · cases h
    -- The arguments are what is left after each token has been taken off.
    calc arguments ⊆ Text.trimRight d := subset_of_ahead? he
      _ ⊆ d := trimRight_subset d
      _ ⊆ Text.trimRight c := subset_of_ahead? hd
      _ ⊆ c := trimRight_subset c
      _ ⊆ Text.trimLeft b := subset_of_after? hc
      _ ⊆ b := trimLeft_subset b
      _ ⊆ Text.trimLeft a := subset_of_after? hb
      _ ⊆ a := trimLeft_subset a
      _ ⊆ Text.trimLeft line := subset_of_after? ha
      _ ⊆ line := trimLeft_subset line

/-- Every piece is a part of the text. -/
private theorem subset_of_mem_pieces {inside : Bool} {cs piece : List Char}
    (h : piece ∈ pieces inside cs) :
    piece ⊆ cs := by
  induction cs generalizing inside piece with
  | nil =>
    obtain rfl := List.mem_singleton.1 h
    exact List.Subset.refl _
  | cons c cs ih =>
    simp only [pieces] at h
    -- Whether a quote is open does not matter for the characters.
    generalize (if c = '"' then !inside else inside) = inside' at h
    split at h
    · rcases List.mem_cons.1 h with rfl | h
      · exact List.nil_subset _
      · exact List.subset_cons_of_subset _ (ih h)
    · split at h
      · obtain rfl := List.mem_singleton.1 h
        simp
      -- The character belongs to the first piece.
      · rename_i first rest hrest
        rcases List.mem_cons.1 h with rfl | h
        · exact List.cons_subset_cons _ (ih (hrest ▸ List.mem_cons_self))
        · exact List.subset_cons_of_subset _ (ih (hrest ▸ List.mem_cons_of_mem _ h))

/-- What stands in quotes is a part of the text. -/
private theorem subset_of_unquote? {cs inner : List Char} (h : unquote? cs = some inner) :
    inner ⊆ cs := by
  unfold unquote? at h
  split at h
  · rename_i cs
    split at h
    · rename_i more hmore
      split at h
      · cases h
      · cases h
        -- The quotes are the first and the last character.
        refine List.subset_cons_of_subset _ fun c hc => ?_
        rw [← List.mem_reverse, hmore]
        exact List.mem_cons_of_mem _ (List.mem_reverse.1 hc)
    · cases h
  · cases h

/-- Every field is a part of the arguments. -/
private theorem subset_of_mem_fields {arguments : List Char} {field : Field}
    (h : field ∈ fields arguments) :
    field.text.toList ⊆ arguments := by
  obtain ⟨piece, hpiece, rfl⟩ := List.mem_map.1 h
  -- A field is read from a trimmed piece.
  have htrim : Text.trim piece ⊆ arguments :=
    List.Subset.trans (List.Subset.trans (trimRight_subset _) (trimLeft_subset _))
      (subset_of_mem_pieces hpiece)
  unfold Field.ofPiece
  dsimp only
  split
  · rename_i inner hinner
    rw [String.toList_ofList]
    exact List.Subset.trans (subset_of_unquote? hinner) htrim
  · rw [String.toList_ofList]
    exact htrim

/-- The name that a directive asks for stands in its line. -/
theorem name_subset {line : String} {d : Directive} (h : parse line = .ok d) :
    d.name.toList ⊆ line.toList := by
  unfold parse at h
  split at h
  · cases h
  · rename_i arguments harguments
    refine List.Subset.trans ?_ (arguments_subset harguments)
    split at h
    · rename_i language kind name source start stop hfields
      have hname : name.toList ⊆ arguments :=
        subset_of_mem_fields (show ⟨name, true⟩ ∈ fields arguments by rw [hfields]; simp)
      simp only [bind, Except.bind, pure, Except.pure] at h
      -- All other steps do not touch the name.
      repeat' split at h
      all_goals cases h
      exact hname
    · cases h

end Directive

/-! ## Blocks -/

namespace CodeBlock

/-- A line ends a block or not, with or without a carriage return. -/
private theorem closes_returned (line : String) : closes (returned line) = closes line := by
  rw [closes, closes, returned, String.toList_append]
  have htrim : Text.trim ([] ++ line.toList ++ ['\r']) = Text.trim line.toList :=
    Text.trim_append_append (by simp) (by simp; decide) line.toList
  rw [List.nil_append] at htrim
  rw [← htrim]
  rfl

/-- A line opens a block if its first characters that are no blanks are a fence. -/
private theorem opens_eq (line : String) :
    opens line = (Directive.after? fence.toList (Text.trimLeft line.toList)).isSome := by
  rw [opens, Directive.after?]
  cases fence.toList.isPrefixOf (Text.trimLeft line.toList) <;> rfl

/-- A line opens a block or not, with or without a carriage return. -/
private theorem opens_returned (line : String) : opens (returned line) = opens line := by
  rw [opens_eq, opens_eq, returned, String.toList_append]
  have hafter := Directive.after?_trimLeft_append (show fence.toList ≠ [] by decide)
    (Text.forall_mem_of_all (by decide)) (b := '\r') (by decide) line.toList
  show (Directive.after? fence.toList (Text.trimLeft (line.toList ++ ['\r']))).isSome = _
  rw [hafter, Option.isSome_map]

/-- An old block is as long with carriage returns. -/
private theorem length?_returned (ls : List String) : length? (ls.map returned) = length? ls := by
  cases ls with
  | nil => rfl
  | cons line rest =>
    simp only [List.map_cons, length?, opens_returned, List.findIdx?_map]
    have hcloses : closes ∘ returned = closes := funext closes_returned
    rw [hcloses]

/-- There is one carriage return more at the end. -/
theorem finalReturns_returned (line : String) :
    finalReturns (returned line) = finalReturns line + 1 := by
  simp [finalReturns, returned]

/-- The carriage return at the end is dropped with the others. -/
theorem withoutReturns_returned (line : String) :
    withoutReturns (returned line) = withoutReturns line := by
  simp [withoutReturns, returned]

/-- The block under a line with a carriage return is the block of the code without carriage returns
    under the line without it, with carriage returns. -/
theorem render_returned (line : String) (language : Language) (code : String) :
    render (returned line) language code =
      withReturns (render line language (withoutPairs code)) := by
  rw [render, finalReturns_returned, withoutReturns_returned]
  rfl

/-- The block under a line with one carriage return can be written. -/
theorem fits_returned {line : String} (h : '\r' ∉ line.toList) : fits (returned line) = true := by
  have hnone : finalReturns line = 0 := by
    unfold finalReturns
    cases hlast : line.toList.reverse with
    | nil => rfl
    | cons c cs =>
      have hc : c ≠ '\r' := by
        rintro rfl
        exact h (List.mem_reverse.1 (hlast ▸ List.mem_cons_self))
      simp [hc]
  rw [fits, finalReturns_returned, hnone]
  decide

end CodeBlock

/-! ## Items -/

namespace Document

/-- An item with carriage returns. -/
def Item.returned : Item → Item
  | text line => text (Transclude.returned line)
  | directive line old => directive (Transclude.returned line) (old.map Transclude.returned)

/-- An old block is one with carriage returns. -/
private theorem OldBlock.returned {old behind : List String} (h : OldBlock old behind) :
    OldBlock (old.map Transclude.returned) (behind.map Transclude.returned) := by
  rw [oldBlock_iff] at h ⊢
  rw [← List.map_append, CodeBlock.length?_returned, List.length_map, h]

/-- A document with carriage returns has the same items, each with carriage returns. -/
private theorem Itemized.returned {lines : List String} {items : List Item}
    (h : Itemized lines items) :
    Itemized (lines.map Transclude.returned) (items.map Item.returned) := by
  induction h with
  | nil => exact .nil
  | text hline _ ih => exact .text (by rw [Directive.marked_returned, hline]) ih
  | directive hline hold _ ih =>
    rw [List.map_cons, List.map_append]
    exact .directive (by rw [Directive.marked_returned, hline]) hold.returned ih

/-- The directives that items ask for. -/
def asked (items : List Item) : List Directive :=
  items.flatMap fun
    | .text _ => []
    | .directive line _ => (Directive.parse line).toOption.toList

end Document

namespace Processor

open Document

variable {σ τ : Type} {p : Processor σ} {q : Processor τ} {s s' : Session σ}

/-- The lines of a replaced block are passed over. -/
theorem metLines_passing (passing : Nat) (lines : List String) (s : Session σ) :
    p.metLines passing lines s = p.metLines 0 (lines.drop passing) s := by
  induction passing generalizing lines with
  | zero => rfl
  | succ passing ih =>
    cases lines with
    | nil => rfl
    | cons line rest => exact ih rest

/-- The directives of the items are met when they are rendered. -/
theorem asked_subset_metLines {lines : List String} {items : List Item} {pieces : List Piece}
    (hitems : Itemized lines items) (h : p.fill items s = .ok pieces s') :
    asked items ⊆ p.metLines 0 lines s := by
  induction hitems generalizing pieces s with
  | nil => exact List.nil_subset _
  -- A line of text asks for nothing.
  | text hline _ ih =>
    obtain ⟨rest, hrest, rfl⟩ := fill_text_eq_ok_iff.1 h
    unfold metLines
    rw [hline]
    exact ih hrest
  | @directive line old behind items hline hold _ ih =>
    obtain ⟨d, code, t, rest, hd, hcode, hfits, hrest, rfl⟩ := fill_directive_eq_ok_iff.1 h
    -- The directive is met when its line is spliced.
    have hsplice : p.splice line (old ++ behind) s =
        .ok (CodeBlock.render line d.language code, old.length) t :=
      splice_eq_ok_iff.2 ⟨d, code, hd, hcode, hfits, oldBlock_iff.1 hold, rfl⟩
    unfold metLines
    rw [hline, if_pos rfl, hsplice]
    dsimp only
    rw [metLines_passing, List.drop_left]
    exact List.append_subset.2 ⟨List.subset_append_left _ _,
      fun _ hmem => List.mem_append_right _ (ih hrest hmem)⟩

section Fill

variable {I : Session σ → Prop} {I' : Session τ → Prop} {directives : List Directive}
  {shown shown' : Directive → Except Failure String}
  (hgives : ∀ d ∈ directives, Action.Gives I (p.code d) (shown d))
  (hgives' : ∀ d ∈ directives, Action.Gives I' (q.code d) (shown' d))
  (hshown : ∀ d ∈ directives, ∀ code, shown d = .ok code →
    ∃ code', shown' d = .ok code' ∧ withoutPairs code' = code)
include hgives hgives' hshown

/-- Items with carriage returns are filled with code that has them, and written out with them, if
    each of the directives shows the same code up to carriage returns. -/
theorem fill_returned {items : List Item} {pieces : List Piece} {t : Session τ}
    (hlines : ∀ line ∈ items.flatMap Item.lines, '\n' ∉ line.toList)
    (hfits : ∀ line ∈ items.flatMap Item.lines, CodeBlock.fits (returned line) = true)
    (hasked : asked items ⊆ directives) (hs : I s) (ht : I' t)
    (h : p.fill items s = .ok pieces s') :
    ∃ pieces' t', q.fill (items.map Item.returned) t = .ok pieces' t' ∧
      String.join (pieces'.map Piece.written) =
        withReturns (String.join (pieces.map Piece.written)) := by
  induction items generalizing pieces s t with
  | nil =>
    cases h
    exact ⟨[], t, rfl, rfl⟩
  | cons item items ih =>
    -- The conditions hold of the items behind the first one.
    have hrest : ∀ line ∈ items.flatMap Item.lines, '\n' ∉ line.toList :=
      fun line hmem => hlines line (by rw [List.flatMap_cons]; exact List.mem_append_right _ hmem)
    have hfits' : ∀ line ∈ items.flatMap Item.lines, CodeBlock.fits (returned line) = true :=
      fun line hmem => hfits line (by rw [List.flatMap_cons]; exact List.mem_append_right _ hmem)
    have hasked' : asked items ⊆ directives := by
      refine List.Subset.trans ?_ hasked
      exact List.subset_append_right _ _
    cases item with
    | text line =>
      obtain ⟨rest, hfill, rfl⟩ := fill_text_eq_ok_iff.1 h
      -- The line keeps its text, and gets one carriage return.
      obtain ⟨pieces', t', hfill', hwritten⟩ := ih hrest hfits' hasked' hs ht hfill
      refine ⟨.text (returned line) :: pieces', t',
        fill_text_eq_ok_iff.2 ⟨pieces', hfill', rfl⟩, ?_⟩
      have hline := withReturns_line (hlines line (by simp [Item.lines]))
      rw [List.map_cons, List.map_cons, String.join_cons, String.join_cons, hwritten,
        withReturns_append, Piece.written, Piece.written, hline]
    | directive line old =>
      obtain ⟨d, code, u, rest, hd, hcode, -, hfill, rfl⟩ := fill_directive_eq_ok_iff.1 h
      have hmem : d ∈ directives := by
        apply hasked
        simp [asked, hd, Except.toOption]
      -- What the one session shows is known, and so is what the other one shows.
      obtain ⟨hshows, hu⟩ := (hgives d hmem).of_ok hs hcode
      obtain ⟨code', hshows', rfl⟩ := hshown d hmem code hshows
      -- The other session gives the code with carriage returns.
      have hgives'' := hgives' d hmem
      rw [hshows'] at hgives''
      obtain ⟨u', hcode', hu'⟩ := hgives''.exists_ok ht
      obtain ⟨pieces', t', hfill', hwritten⟩ := ih hrest hfits' hasked' hu hu' hfill
      refine ⟨.excerpt (returned line) d code' :: pieces', t', fill_directive_eq_ok_iff.2
        ⟨d, code', u', pieces', Directive.parse_returned hd, hcode',
          hfits line (by simp [Item.lines]), hfill', rfl⟩, ?_⟩
      have hline := withReturns_line (hlines line (by simp [Item.lines]))
      rw [List.map_cons, List.map_cons, String.join_cons, String.join_cons, hwritten,
        withReturns_append, Piece.written, Piece.written, CodeBlock.render_returned,
        withReturns_append, hline]

end Fill

/-- A document with carriage returns renders to what it renders to without, with carriage returns,
    if each directive that is met shows the same code up to carriage returns. -/
theorem render_withReturns_of_shown {I : Session σ → Prop} {I' : Session τ → Prop}
    {shown shown' : Directive → Except Failure String} {document out : String} {t : Session τ}
    (hdocument : document.toList.getLast? = some '\n') (hfree : '\r' ∉ document.toList)
    (hs : I s) (ht : I' t)
    (hgives : ∀ d ∈ p.met document s, Action.Gives I (p.code d) (shown d))
    (hgives' : ∀ d ∈ p.met document s, Action.Gives I' (q.code d) (shown' d))
    (hshown : ∀ d ∈ p.met document s, ∀ code, shown d = .ok code →
      ∃ code', shown' d = .ok code' ∧ withoutPairs code' = code)
    (h : p.render document s = .ok out s') :
    ∃ t', q.render (withReturns document) t = .ok (withReturns out) t' := by
  -- Neither document is empty.
  have hne : document ≠ "" := by
    rintro rfl
    cases hdocument
  have hne' : withReturns document ≠ "" := by
    rw [withReturns_eq_unlines hdocument]
    exact Text.unlines_ne_empty (by simp [Text.lines_ne_nil])
  obtain ⟨items, pieces, hitems, hfill, rfl⟩ := (render_eq_ok_iff hne).1 h
  have hlines : ∀ line ∈ items.flatMap Item.lines, '\n' ∉ line.toList := by
    rw [hitems.flatMap_lines]
    exact fun line => Text.newline_not_mem_of_mem_lines
  -- The lines hold no carriage returns, so one more is not too many.
  have hfits : ∀ line ∈ items.flatMap Item.lines, CodeBlock.fits (returned line) = true := by
    rw [hitems.flatMap_lines]
    exact fun line hline =>
      CodeBlock.fits_returned fun hmem => hfree (Text.subset_of_mem_lines hline hmem)
  have hasked : asked items ⊆ p.met document s := by
    rw [met, if_neg (by simpa [String.isEmpty_iff] using hne)]
    exact asked_subset_metLines hitems hfill
  obtain ⟨pieces', t', hfill', hwritten⟩ := fill_returned hgives hgives' hshown hlines
    hfits hasked hs ht hfill
  rw [← hwritten]
  -- The items of the other document are the same items with carriage returns.
  refine ⟨t', (render_eq_ok_iff hne').2 ⟨items.map Item.returned, pieces', ?_, hfill', rfl⟩⟩
  rw [lines_withReturns hdocument]
  exact hitems.returned

end Processor

end Transclude
