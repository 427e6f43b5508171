import Transclude.Proofs.Action
import Transclude.Proofs.Directive.Field
import Transclude.Proofs.Numeral.Integer
import Transclude.Proofs.Text.Search

/-!
# The grammar of directives

A line has the `tokens` of some fields if it is the frame around them, with commas between them
and blanks around each token.  `Describes d fs` says that the fields `fs` are those of the
directive `d`: four quoted texts and two indexes.

Reading is the inverse of writing: a directive is read from the lines with its tokens that hold no
newline between the parentheses, and from no others (`parse_eq_ok_iff`).  So it is read back
however it is spelled (`parse_spelled`), and nothing else is accepted (`parse_cases`).  The one
freedom that the grammar does not mean to give is that of an index between quotation marks
(`parse_quotedIndexLine`).
-/

namespace Transclude

/-! ## Names in any case -/

namespace Text

/-- Only the ASCII capitals have a small letter in ASCII. -/
theorem toLower_eq_self_or (c : Char) : c.toLower = c ∨ ∃ n < 26, c = Char.ofNat (65 + n) := by
  unfold Char.toLower
  split
  · rename_i h
    right
    have hlow : 65 ≤ c.toNat := UInt32.le_iff_toNat_le.1 h.1
    have hhigh : c.toNat ≤ 90 := UInt32.le_iff_toNat_le.1 h.2
    refine ⟨c.toNat - 65, by omega, ?_⟩
    rw [show 65 + (c.toNat - 65) = c.toNat by omega, Char.ofNat_toNat]
  · exact .inl rfl

/-- Only an ASCII character becomes one when it is lowered in ASCII. -/
private theorem ascii_of_toLower {c : Char} (h : c.toLower.toNat < 0x80) : c.toNat < 0x80 := by
  rcases toLower_eq_self_or c with hself | ⟨n, hn, rfl⟩
  · rwa [hself] at h
  · revert n
    decide

/-- Lowering a character does not make it blank. -/
private theorem isBlank_toLower (c : Char) : isBlank c.toLower = isBlank c := by
  rcases toLower_eq_self_or c with hself | ⟨n, hn, rfl⟩
  · rw [hself]
  · revert n
    decide

/-- In ASCII letters become small one by one. -/
theorem lowerFrom_of_ascii {cs : List Char} (h : ∀ c ∈ cs, c.toNat < 0x80) (before : List Char) :
    lowerFrom before cs = cs.map Char.toLower := by
  induction cs generalizing before with
  | nil => rfl
  | cons c cs ih =>
    obtain ⟨hc, hcs⟩ := List.forall_mem_cons.1 h
    rw [lowerFrom, if_neg (by omega), lowerChar, if_pos hc, ih hcs, List.map_cons]
    rfl

/-- The text is the name in any case, with blanks around it. -/
def Spells (name : String) (cs : List Char) : Prop :=
  ∃ letters, letters.map Char.toLower = name.toList ∧ Spaced [letters] cs

/-- A character other than blanks and letters is spelled only where it stands in the name. -/
theorem Spells.not_mem {name : String} {cs : List Char} (h : Spells name cs) {c : Char}
    (hc : isBlank c = false) (hlower : c.toLower = c) (hname : c ∉ name.toList) : c ∉ cs := by
  obtain ⟨letters, hletters, hspaced⟩ := h
  obtain ⟨front, back, rfl, hfront, hback⟩ := spaced_singleton_iff.1 hspaced
  have hblank : ∀ {gap : List Char}, (∀ b ∈ gap, isBlank b = true) → c ∉ gap := fun hgap hmem =>
    absurd (hgap c hmem) (by simp [hc])
  simp only [List.mem_append, not_or]
  refine ⟨⟨hblank hfront, fun hmem => hname ?_⟩, hblank hback⟩
  rw [← hletters, ← hlower]
  exact List.mem_map_of_mem hmem

/-- A name in ASCII without blanks is found again in what it is spelled. -/
theorem Spells.lowercase_stripped {name text : String} (h : Spells name text.toList)
    (hname : ∀ c ∈ name.toList, c.toNat < 0x80 ∧ isBlank c = false) :
    lowercase (stripped text) = name := by
  obtain ⟨letters, hletters, hspaced⟩ := h
  rw [← hletters, List.forall_mem_map] at hname
  have htrim : trim text.toList = letters := by
    rw [hspaced.trim_eq]
    exact trim_eq_self fun c hc => by rw [← isBlank_toLower]; exact (hname c hc).2
  rw [lowercase, lower, toList_stripped, htrim,
    lowerFrom_of_ascii (fun c hc => ascii_of_toLower (hname c hc).1), hletters,
    String.ofList_toList]

end Text

/-- A language is known by each of its names, in any case and with blanks around it. -/
theorem Language.ofString?_of_spells {word : String} {l : Language} (h : (word, l) ∈ aliases)
    {text : String} (hspells : Text.Spells word text.toList) : ofString? text = some l := by
  have hnames : ∀ p ∈ aliases,
      (p.1.toList.all fun c => decide (c.toNat < 0x80 ∧ Text.isBlank c = false)) = true ∧
        aliases.lookup p.1 = some p.2 := by decide
  obtain ⟨hname, hlookup⟩ := hnames _ h
  rw [ofString?, hspells.lowercase_stripped (Text.forall_mem_of_all hname), hlookup]

/-- A kind is known by its name, in any case and with blanks around it. -/
theorem Kind.ofString?_of_spells {kind : Kind} {text : String}
    (hspells : Text.Spells kind.tag text.toList) : ofString? text = some kind := by
  rw [ofString?, hspells.lowercase_stripped
    (Text.forall_mem_of_all (by cases kind <;> decide))]
  cases kind <;> decide

namespace Directive

open Text (Spaced isBlank)
open Numeral (IsNumeral)

/-! ## Tokens -/

/-- The tokens of a directive with some fields. -/
def tokens (fs : List Field) : List (List Char) :=
  [['<', '!', '-', '-'], ['p', 'l', 'u', 'c', 'k'], ['(']] ++
    ((fs.map Field.written).intersperse [','] ++ [[')'], ['-', '-', '>']])

/-- The arguments are what stands between the parentheses, with the blanks there. -/
theorem spaced_tokens_iff {fs : List Field} {line : List Char} :
    Spaced (tokens fs) line ↔
      ∃ arguments, Spaced (frame arguments) line ∧ Separated fs arguments := by
  constructor
  -- The tokens of the frame are taken off one by one, and the blanks between the fields and the
  -- brackets go to the arguments.
  · intro h
    obtain ⟨front, rest, rfl, hstart, hrest⟩ := Text.spaced_append_iff.1 h
    obtain ⟨inner, back, rfl, hinner, hback⟩ := Text.spaced_append_iff.1 hrest
    obtain ⟨front, opening, rfl, hfront, hopening⟩ :=
      Text.spaced_append_iff.1 (show Spaced ([_, _] ++ [['(']]) _ from hstart)
    obtain ⟨gap, before, rfl, hgap, hbefore⟩ := Text.spaced_cons_iff.1 hopening
    obtain ⟨behind, back, rfl, hbehind, hback⟩ := Text.spaced_cons_iff.1 hback
    refine ⟨before ++ inner ++ behind, ?_, ?_⟩
    · have hmiddle : Spaced ['(' :: (before ++ inner ++ behind ++ [')']), ['-', '-', '>']] _ :=
        .cons hgap hback
      simpa [frame] using Text.spaced_append_iff.2 ⟨front, _, rfl, hfront, hmiddle⟩
    · have hinner := hinner.append_left (Text.spaced_nil_iff.1 hbefore)
      simpa [Separated] using Text.spaced_append_iff.2 ⟨_, behind, rfl, hinner, .nil hbehind⟩
  · rintro ⟨arguments, hframe, hinner⟩
    -- The blanks inside of the brackets are those of the fields already.
    obtain ⟨front, rest, rfl, hfront, hrest⟩ :=
      Text.spaced_append_iff.1 (show Spaced ([_, _] ++ [_, _]) _ from hframe)
    obtain ⟨gap, back, rfl, hgap, hback⟩ := Text.spaced_cons_iff.1 hrest
    have hopening : Spaced [['(']] (gap ++ (['('] ++ [])) := .cons hgap (.nil (by simp))
    have hclosing : Spaced [[')'], ['-', '-', '>']] ([] ++ ([')'] ++ back)) := .cons (by simp) hback
    have hinner := Text.spaced_append_iff.2 ⟨_, _, rfl, hinner, hclosing⟩
    simpa [tokens] using Text.spaced_append_iff.2
      ⟨_, _, rfl, Text.spaced_append_iff.2 ⟨_, _, rfl, hfront, hopening⟩, hinner⟩

/-! ## Indexes -/

/-- An index is read exactly from a numeral with blanks around. -/
private theorem parseIndex_eq_ok_iff {bound : Bound} {line value : String} {n : Int} :
    parseIndex bound line value = .ok n ↔ IsNumeral n (Text.trim value.toList) := by
  rw [← Numeral.parseInt_eq_ok_iff]
  unfold parseIndex
  cases Numeral.parseInt (Text.trim value.toList) <;> simp

/-- There are no blanks at the ends of a numeral. -/
private theorem trim_numeral {n : Int} {numeral : List Char} (h : IsNumeral n numeral) :
    Text.trim numeral = numeral :=
  Text.trim_eq_self fun c hc => Numeral.isBlank_of_isNumeralChar (h.isNumeralChar c hc)

/-- A field for an index: a numeral, or quotation marks around a numeral with blanks. -/
inductive IsIndex (n : Int) : Field → Prop where
  | bare {numeral : List Char} (h : IsNumeral n numeral) : IsIndex n ⟨String.ofList numeral, false⟩
  | quoted {numeral text : List Char} (h : IsNumeral n numeral) (htext : Spaced [numeral] text) :
    IsIndex n ⟨String.ofList text, true⟩

/-- A field is read as an index if it is one. -/
theorem isIndex_iff {n : Int} {f : Field} (hf : f.Proper) :
    IsIndex n f ↔ IsNumeral n (Text.trim f.text.toList) := by
  constructor
  · intro h
    cases h with
    | bare h => rwa [String.toList_ofList, trim_numeral h]
    | quoted h htext => rwa [String.toList_ofList, htext.trim_eq, trim_numeral h]
  · intro h
    -- The text of a bare field is its numeral, as it holds no blanks.
    obtain ⟨text, quoted⟩ := f
    rw [← String.ofList_toList (s := text)]
    cases quoted with
    | false =>
      rw [hf.1] at h
      exact .bare h
    | true => exact .quoted h (Text.spaced_trim _)

/-- A numeral holds neither quotation marks nor commas, and so do blanks around it. -/
theorem not_mem_of_spaced_numeral {n : Int} {numeral text : List Char} (h : IsNumeral n numeral)
    (htext : Spaced [numeral] text) : '"' ∉ text ∧ ',' ∉ text := by
  -- A numeral and the blanks around hold neither quotes nor commas.
  have hchar : ∀ c ∈ text, isBlank c = true ∨ Numeral.isNumeralChar c = true := by
    obtain ⟨front, back, rfl, hfront, hback⟩ := Text.spaced_singleton_iff.1 htext
    intro c hc
    simp only [List.mem_append] at hc
    rcases hc with (hc | hc) | hc
    · exact .inl (hfront c hc)
    · exact .inr (h.isNumeralChar c hc)
    · exact .inl (hback c hc)
  constructor
  · intro hmem
    exact absurd (hchar _ hmem) (by decide)
  · intro hmem
    exact absurd (hchar _ hmem) (by decide)

/-- A field with an index is one that can be written. -/
private theorem IsIndex.proper {n : Int} {f : Field} (h : IsIndex n f) : f.Proper := by
  cases h with
  | bare h =>
    have hmem := not_mem_of_spaced_numeral h (Text.spaced_self _)
    simp only [Field.Proper, Bool.false_eq_true, if_false, String.toList_ofList]
    refine ⟨trim_numeral h, Option.eq_none_iff_forall_ne_some.2 fun inner hinner => hmem.1 ?_⟩
    rw [(unquote?_eq_some_iff.1 hinner).1]
    exact List.mem_cons_self
  | quoted h htext => simpa [Field.Proper] using (not_mem_of_spaced_numeral h htext).1

/-- No comma of a field with an index can be taken for a separator. -/
private theorem IsIndex.closed {n : Int} {f : Field} (h : IsIndex n f) : Closed f.written := by
  refine h.proper.closed fun hbare => ?_
  cases h with
  | bare h =>
    rw [String.toList_ofList]
    exact not_mem_of_spaced_numeral h (Text.spaced_self _)
  | quoted => cases hbare

/-! ## Reading -/

/-- The fields of a directive: four quoted texts and two indexes. -/
inductive Describes (d : Directive) : List Field → Prop where
  | mk {language kind : String} {start stop : Field}
    (hlanguage : Language.ofString? language = some d.language)
    (hkind : Kind.ofString? kind = some d.kind)
    (hquoted : ∀ text ∈ [language, kind, d.name, d.source], '"' ∉ text.toList)
    (hstart : IsIndex d.start start) (hstop : IsIndex d.stop stop) :
    Describes d [⟨language, true⟩, ⟨kind, true⟩, ⟨d.name, true⟩, ⟨d.source, true⟩, start, stop]

/-- The fields of a directive are found again where they stand with commas between them. -/
theorem Describes.fields_eq {d : Directive} {fs : List Field} (h : Describes d fs)
    {arguments : List Char} (hseparated : Separated fs arguments) : fields arguments = fs := by
  cases h with
  | mk _ _ hquoted hstart hstop =>
    refine fields_eq_of_separated (List.cons_ne_nil _ _) ?_ hseparated
    -- Every quoted field is proper and closed, whatever its text is.
    have hfield : ∀ text, '"' ∉ String.toList text →
        Field.Proper ⟨text, true⟩ ∧ Closed (Field.written ⟨text, true⟩) :=
      fun text htext => ⟨htext, closed_quoted htext⟩
    simp only [List.forall_mem_cons] at hquoted ⊢
    obtain ⟨hlanguage, hkind, hname, hsource, -⟩ := hquoted
    exact ⟨hfield _ hlanguage, hfield _ hkind, hfield _ hname, hfield _ hsource,
      ⟨hstart.proper, hstart.closed⟩, ⟨hstop.proper, hstop.closed⟩, by simp⟩

/-- What is read from the fields of a directive. -/
theorem parse_eq_ok_iff_fields {line : String} {arguments : List Char}
    (h : arguments? line.toList = some arguments) {d : Directive} :
    parse line = .ok d ↔ Describes d (fields arguments) := by
  have hproper : ∀ f ∈ fields arguments, f.Proper := (separated_of_fields rfl).2
  unfold parse
  rw [h]
  dsimp only
  generalize fields arguments = fs at hproper
  -- The fields are read one after the other, and each step can be taken back.
  constructor
  · intro hd
    split at hd
    · rename_i language kind name source start stop
      cases hlanguage : Language.ofString? language with
      | none =>
        rw [hlanguage] at hd
        cases hd
      | some l =>
        cases hkind : Kind.ofString? kind with
        | none =>
          rw [hlanguage, hkind] at hd
          cases hd
        | some k =>
          rw [hlanguage, hkind] at hd
          -- The language and the kind are known, and both indexes are read.
          obtain ⟨_, hl, hd⟩ := except_bind_eq_ok_iff.1 hd
          obtain ⟨_, hk, hd⟩ := except_bind_eq_ok_iff.1 hd
          obtain ⟨m, hm, hd⟩ := except_bind_eq_ok_iff.1 hd
          obtain ⟨n, hn, hd⟩ := except_bind_eq_ok_iff.1 hd
          cases hl
          cases hk
          cases hd
          simp only [List.forall_mem_cons] at hproper
          obtain ⟨hlanguage', hkind', hname', hsource', hstart', hstop', -⟩ := hproper
          refine .mk hlanguage hkind ?_ ((isIndex_iff hstart').2 (parseIndex_eq_ok_iff.1 hm))
            ((isIndex_iff hstop').2 (parseIndex_eq_ok_iff.1 hn))
          simp only [List.forall_mem_cons]
          exact ⟨hlanguage', hkind', hname', hsource', by simp⟩
    · cases hd
  · intro hd
    cases hd with
    | mk hlanguage hkind hquoted hstart hstop =>
      -- An index is read whether or not it is quoted.
      have hindex : ∀ {bound : Bound} {n : Int} {f : Field}, IsIndex n f →
          parseIndex bound line f.text = .ok n := fun h =>
        parseIndex_eq_ok_iff.2 ((isIndex_iff h.proper).1 h)
      dsimp only
      rw [hlanguage, hkind, hindex hstart, hindex hstop]
      rfl

/-- Just the lines with the tokens of a directive, and no newline between the parentheses, are
    read as this directive. -/
theorem parse_eq_ok_iff {line : String} {d : Directive} :
    parse line = .ok d ↔ ∃ arguments fs, Spaced (frame arguments) line.toList ∧ '\n' ∉ arguments ∧
      Separated fs arguments ∧ Describes d fs := by
  constructor
  · intro h
    -- Without arguments there is no directive.
    cases harguments : arguments? line.toList with
    | none =>
      rw [parse, harguments] at h
      cases h
    | some arguments =>
      obtain ⟨hframe, hnewline⟩ := arguments?_eq_some_iff.1 harguments
      exact ⟨arguments, _, hframe, hnewline, (separated_of_fields rfl).1,
        (parse_eq_ok_iff_fields harguments).1 h⟩
  · rintro ⟨arguments, fs, hframe, hnewline, hseparated, hfs⟩
    rw [parse_eq_ok_iff_fields (arguments?_eq_some_iff.2 ⟨hframe, hnewline⟩),
      hfs.fields_eq hseparated]
    exact hfs

/-- Between the parentheses of a line without newlines there is none. -/
theorem newline_not_mem_of_frame {arguments line : List Char} (h : Spaced (frame arguments) line)
    (hline : '\n' ∉ line) : '\n' ∉ arguments := by
  intro hmem
  have htoken : '(' :: (arguments ++ [')']) ∈ frame arguments := by simp [frame]
  exact hline (h.subset htoken (by simp [hmem]))

/-- A line with the tokens of a directive and without newlines is read as this directive. -/
theorem Describes.parse_eq {d : Directive} {fs : List Field} (h : Describes d fs) {line : String}
    (hline : Spaced (tokens fs) line.toList) (hnewline : '\n' ∉ line.toList) :
    marked line = true ∧ parse line = .ok d := by
  obtain ⟨arguments, hframe, hseparated⟩ := spaced_tokens_iff.1 hline
  have hinner := newline_not_mem_of_frame hframe hnewline
  refine ⟨?_, parse_eq_ok_iff.2 ⟨arguments, fs, hframe, hinner, hseparated, h⟩⟩
  rw [marked, arguments?_eq_some_iff.2 ⟨hframe, hinner⟩, Option.isSome_some]

/-- A directive is read back from any line that it is written in: with any name of the language and
    the kind in any case and with blanks around them, with any numerals for the indexes, and with
    any blanks but newlines around the tokens.  The name and the source may hold the characters of
    the frame. -/
theorem parse_spelled {d : Directive} {word language kind start stop line : String}
    (hword : (word, d.language) ∈ Language.aliases)
    (hlanguage : Text.Spells word language.toList) (hkind : Text.Spells d.kind.tag kind.toList)
    (hname : '"' ∉ d.name.toList) (hsource : '"' ∉ d.source.toList)
    (hstart : IsNumeral d.start start.toList) (hstop : IsNumeral d.stop stop.toList)
    (hline : Spaced (tokens [⟨language, true⟩, ⟨kind, true⟩, ⟨d.name, true⟩, ⟨d.source, true⟩,
      ⟨start, false⟩, ⟨stop, false⟩]) line.toList)
    (hnewline : '\n' ∉ line.toList) :
    marked line = true ∧ parse line = .ok d := by
  have hwords : ∀ p ∈ Language.aliases, '"' ∉ p.1.toList := by decide
  -- No alias and no tag holds a quote, and neither does another way of writing it.
  have hlanguage' := hlanguage.not_mem (by decide) (by decide) (hwords _ hword)
  have htags : ∀ k : Kind, '"' ∉ k.tag.toList := fun k => by cases k <;> decide
  have hkind' := hkind.not_mem (by decide) (by decide) (htags d.kind)
  -- The indexes are not quoted.
  have hbare : ∀ {n : Int} {text : String}, IsNumeral n text.toList → IsIndex n ⟨text, false⟩ := by
    intro n text h
    rw [← String.ofList_toList (s := text)]
    exact .bare h
  have hdescribes := Describes.mk (Language.ofString?_of_spells hword hlanguage)
    (Kind.ofString?_of_spells hkind)
    (by simp only [List.forall_mem_cons]; exact ⟨hlanguage', hkind', hname, hsource, by simp⟩)
    (hbare hstart) (hbare hstop)
  exact hdescribes.parse_eq hline hnewline

/-- A line with blanks in many places, and with the characters of the frame in its texts. -/
def spelledLine : String :=
  "\t<!--pluck (\" GoLang\t\",\"TYPE\" , \"a,(b)-->c\",\"d, e) -->\" ,\t-007 , +1_0)--> "

/-- A line with blanks, another alias and punctuation inside of quotes is a directive. -/
theorem parse_spelled_sample :
    marked spelledLine = true ∧
      parse spelledLine = .ok ⟨.go, .type, "a,(b)-->c", "d, e) -->", -7, 10⟩ :=
  have hword : ("golang", Language.go) ∈ Language.aliases := by decide
  have hlanguage : Text.Spells "golang" " GoLang\t".toList :=
    ⟨"GoLang".toList, by decide, Text.spaced_singleton_iff.2 ⟨[' '], ['\t'], by decide,
      Text.forall_mem_of_all (by decide), Text.forall_mem_of_all (by decide)⟩⟩
  have hkind : Text.Spells Kind.type.tag "TYPE".toList :=
    ⟨"TYPE".toList, by decide, Text.spaced_self _⟩
  have hstart : IsNumeral (-7) "-007".toList := Numeral.parseInt_eq_ok_iff.1 (by decide)
  have hstop : IsNumeral 10 "+1_0".toList := Numeral.parseInt_eq_ok_iff.1 (by decide)
  parse_spelled hword hlanguage hkind (by decide) (by decide) hstart hstop
    (spaced_tokens_iff.2 ⟨_, (arguments?_eq_some_iff.1 rfl).1, (separated_of_fields (by decide)).1⟩)
    (by decide)

/-- The fields as they are usually written. -/
def usual (d : Directive) : List Field :=
  [⟨d.language.tag, true⟩, ⟨d.kind.tag, true⟩, ⟨d.name, true⟩, ⟨d.source, true⟩,
    ⟨toString d.start, false⟩, ⟨toString d.stop, false⟩]

/-- Every directive whose texts can be quoted and whose indexes are not too long has a line. -/
theorem parse_usual {d : Directive} (hname : '"' ∉ d.name.toList ∧ '\n' ∉ d.name.toList)
    (hsource : '"' ∉ d.source.toList ∧ '\n' ∉ d.source.toList)
    (hstart : d.start.natAbs < 10 ^ Numeral.maxDigits)
    (hstop : d.stop.natAbs < 10 ^ Numeral.maxDigits) :
    parse (String.ofList (tokens d.usual).flatten) = .ok d := by
  -- Indexes are written with digits and a sign, all on one line.
  have hindex : ∀ {n : Int}, n.natAbs < 10 ^ Numeral.maxDigits →
      IsIndex n ⟨toString n, false⟩ ∧ '\n' ∉ (toString n).toList := by
    intro n hn
    have hnumeral := Numeral.isNumeral_toString hn
    refine ⟨?_, fun hmem => absurd (hnumeral.isNumeralChar _ hmem) (by decide)⟩
    rw [← String.ofList_toList (s := toString n)]
    exact .bare hnumeral
  have htags : '"' ∉ d.language.tag.toList ∧ '"' ∉ d.kind.tag.toList ∧
      '\n' ∉ d.language.tag.toList ∧ '\n' ∉ d.kind.tag.toList := by
    cases d.language <;> cases d.kind <;> decide
  have hdescribes : Describes d d.usual := by
    refine .mk (by cases d.language <;> decide) (by cases d.kind <;> decide) ?_
      (hindex hstart).1 (hindex hstop).1
    simp only [List.forall_mem_cons]
    exact ⟨htags.1, htags.2.1, hname.1, hsource.1, by simp⟩
  refine (hdescribes.parse_eq ?_ ?_).2
  · rw [String.toList_ofList]
    exact Text.spaced_flatten _
  · simpa [tokens, usual, Field.written, htags, hname, hsource] using
      And.intro (hindex hstart).2 (hindex hstop).2

/-! ## Refusing -/

/-- All errors are problems of these categories, without a word about where they are. -/
def Refuses {α : Type} (categories : List Category) (r : Except Failure α) : Prop :=
  ∀ e, r = .error e → ∃ problem, e = .of problem ∧ problem.category ∈ categories

section

variable {α β : Type} {categories : List Category}

/-- What succeeds is refused in no category. -/
private theorem refuses_ok (x : α) : Refuses categories (.ok x) := by
  intro e h
  cases h

/-- An error is refused in its category. -/
private theorem refuses_of {problem : Problem Failure} (h : problem.category ∈ categories) :
    Refuses categories (.error (.of problem) : Except Failure α) := by
  intro e he
  cases he
  exact ⟨problem, rfl, h⟩

/-- Steps that refuse in some categories only can be made after each other. -/
private theorem Refuses.bind {r : Except Failure α} {f : α → Except Failure β}
    (hr : Refuses categories r)
    (hf : ∀ x, Refuses categories (f x)) : Refuses categories (r >>= f) := by
  cases r with
  | ok x => exact hf x
  | error e =>
    intro e' he'
    cases he'
    exact hr e rfl

end

/-- What may be wrong with a directive. -/
def categories : List Category :=
  [.malformedDirective, .invalidLanguage, .invalidKind, .invalidIndex]

/-- An index is refused as a malformed number. -/
private theorem refuses_parseIndex (bound : Bound) (line value : String) :
    Refuses categories (parseIndex bound line value) := by
  unfold parseIndex
  split
  · exact refuses_ok _
  · exact refuses_of (by simp [categories, Problem.category])

/-- A line is refused in one of the categories of a directive. -/
theorem refuses_parse (line : String) : Refuses categories (parse line) := by
  unfold parse
  cases arguments? line.toList with
  | none => exact refuses_of (by simp [categories, Problem.category])
  | some arguments =>
    dsimp only
    generalize fields arguments = fs
    -- Six fields with known names are read further, everything else is refused.
    split
    · split
      · refine (refuses_ok _).bind fun language => ?_
        split
        · exact (refuses_ok _).bind fun kind => (refuses_parseIndex _ _ _).bind fun start =>
            (refuses_parseIndex _ _ _).bind fun stop => refuses_ok _
        · exact refuses_of (by simp [categories, Problem.category])
      · exact refuses_of (by simp [categories, Problem.category])
    · exact refuses_of (by simp [categories, Problem.category])

/-- A line without the frame of a directive is none. -/
theorem parse_of_not_marked {line : String} (h : marked line = false) :
    parse line = .error (.of (.notADirective line)) := by
  have hnone : arguments? line.toList = none :=
    Option.isNone_iff_eq_none.1 (Option.isSome_eq_false_iff.1 h)
  rw [parse, hnone]

/-- A line that is read as a directive is its tokens and blanks around them, its name and source are
    the third and fourth of its quoted texts, and its indexes are the numerals in the last two
    fields.  Any other line is refused, and as no directive if it has not the frame of one. -/
theorem parse_cases (line : String) :
    match parse line with
    | .ok d => marked line = true ∧ ∃ fs, Describes d fs ∧ Spaced (tokens fs) line.toList
    | .error e => ∃ problem, e = .of problem ∧
        if marked line then problem.category ∈ categories
        else problem.category = .malformedDirective := by
  cases hparse : parse line with
  -- A line that is read has the marks of a directive.
  | ok d =>
    obtain ⟨arguments, fs, hframe, hnewline, hseparated, hfs⟩ := parse_eq_ok_iff.1 hparse
    refine ⟨?_, fs, hfs, spaced_tokens_iff.2 ⟨arguments, hframe, hseparated⟩⟩
    rw [marked, arguments?_eq_some_iff.2 ⟨hframe, hnewline⟩, Option.isSome_some]
  | error e =>
    cases hmarked : marked line with
    | true => simpa using refuses_parse line e hparse
    | false =>
      rw [parse_of_not_marked hmarked] at hparse
      cases hparse
      exact ⟨_, rfl, rfl⟩

/-- A directive with an index between quotation marks. -/
def quotedIndexLine : String := "<!-- pluck(\"go\", \"type\", \"Foo\", \"file.go\", \"1\", 0) -->"

/-- Indexes between quotation marks are read as well, though a directive has four quoted texts and
    two integers. -/
theorem parse_quotedIndexLine :
    parse quotedIndexLine = .ok ⟨.go, .type, "Foo", "file.go", 1, 0⟩ ∧
      ¬∃ d fs, Describes d fs ∧ (∀ f ∈ fs.drop 4, f.quoted = false) ∧
        Spaced (tokens fs) quotedIndexLine.toList := by
  refine ⟨rfl, ?_⟩
  rintro ⟨d, fs, hfs, hbare, hline⟩
  obtain ⟨arguments, hframe, hseparated⟩ := spaced_tokens_iff.1 hline
  have hinner := newline_not_mem_of_frame hframe (by decide)
  -- There is only one way to read the line.
  have harguments : arguments =
      "\"go\", \"type\", \"Foo\", \"file.go\", \"1\", 0".toList :=
    Option.some_inj.1 ((arguments?_eq_some_iff.2 ⟨hframe, hinner⟩).symm.trans rfl)
  rw [← hfs.fields_eq hseparated, harguments] at hbare
  revert hbare
  decide

end Directive

end Transclude
