import Transclude.Proofs.CommandLine
import Transclude.Proofs.Run.Failure

/-!
# The line that an error of a run points at

Only documents say on which line an error occurs: the fetchers and extractors of the program do not
(`CommandLine.unplaced_processor`), nor do listing, reading and writing.  So an error of a run that
says a line is that of a document, and the line is that of the first directive there that fails
(`Run.exists_failsAt_of_run_eq_error`).
-/

namespace Transclude

/-! ## Sources -/

/-- Fetching a file knows of no document and no line. -/
private theorem Disk.unplaced_fetch (base : Path) (tree : FileTree) (uri : String) :
    UnplacedErrors (fetch base tree uri) := by
  unfold fetch
  dsimp only
  split
  · exact .ok _
  · exact .error trivial
  · exact .error (Failure.unplaced_about _ _)

/-- Rewriting an address knows of no document and no line. -/
private theorem GitHub.unplaced_rawUrl (uri : String) : UnplacedErrors (rawUrl uri) := by
  unfold rawUrl
  dsimp only
  split
  · exact .error (Failure.unplaced_about _ _)
  · exact .ok _

/-- Fetching a page knows of no document and no line. -/
private theorem GitHub.unplaced_fetch (client : Web.Client) (token : Option String) (uri : String) :
    UnplacedErrors (fetch client token uri).1 := by
  unfold fetch
  cases hurl : rawUrl uri with
  | error e => exact .error (unplaced_rawUrl uri e hurl)
  | ok url =>
    dsimp only
    -- Whatever the client gives, a failure of the fetcher is about the address alone.
    cases (client (authorization token) url).1 with
    | response status body =>
      dsimp only
      split
      · exact .ok _
      · exact .error (Failure.unplaced_about _ _)
    | failed reason => exact .error (Failure.unplaced_about _ _)
    | raised fault => exact .error trivial

/-! ## Excerpts -/

/-- A fault has no place. -/
private theorem FaultsIn.unplaced {α : Type} {P : Fault → Prop} {r : Except Failure α}
    (h : FaultsIn P r) : UnplacedErrors r := by
  intro e he
  obtain ⟨f, rfl, -⟩ := h e he
  trivial

/-- Listing declarations knows of no document and no line. -/
private theorem Go.unplaced_declarations (lib : Library) (bytes : ByteArray) :
    UnplacedErrors (declarations lib bytes) := by
  rcases declarations_cases lib bytes with ⟨-, hds⟩ | ⟨-, ⟨f, hds, -⟩ | ⟨ds, hds⟩⟩
  · rw [hds]
    exact .error (Failure.unplaced_of _)
  · rw [hds]
    exact .error trivial
  · rw [hds]
    exact .ok ds

/-- Cutting out a declaration knows of no document and no line. -/
private theorem Go.unplaced_extract (lib : Library) (source name : String) (kind : Kind) :
    UnplacedErrors (extract lib source name kind) := by
  cases kind with
  | file => exact .ok _
  | node => exact .error (Failure.unplaced_of _)
  | type | function =>
    refine (unplaced_declarations lib (Text.encode (terminated source))).bind fun ds => ?_
    split
    · exact (Declaration.faultsIn_snippet name _).unplaced
    · exact .error (Failure.unplaced_of _)

/-- Taking apart a declaration knows of no document and no line. -/
private theorem Go.unplaced_split (lib : Library) (name text : String) :
    UnplacedErrors (split lib name text) := by
  refine (unplaced_declarations lib _).bind fun ds => ?_
  split
  · exact (Declaration.faultsIn_snippet name _).unplaced
  · exact .error (Failure.unplaced_of _)

/-- Restoring an excerpt knows of no document and no line. -/
private theorem Go.unplaced_restore (lib : Library) (name : String) (kind : Kind) (text : String) :
    UnplacedErrors (restore lib name kind text) := by
  cases kind with
  | file | node => exact .ok _
  | type | function => exact unplaced_split lib name text

/-- What is made of a tool's answer knows of no document and no line. -/
private theorem Tool.unplaced_result (lib : Go.Library) (kind : Kind) (name : String) (code : Int)
    (output errors : ByteArray) : UnplacedErrors (result lib kind name code output errors) := by
  unfold result
  split
  · split
    · exact Go.unplaced_split lib name _
    · exact .error trivial
  · dsimp only
    split
    · exact .error (Failure.unplaced_of _)
    · exact .error (Failure.unplaced_of _)

/-- Asking a tool knows of no document and no line. -/
private theorem Tool.unplaced_extract (tool : Tool) (lib : Go.Library) (source name : String)
    (kind : Kind) : UnplacedErrors ((tool.extractor lib).extract source name kind) := by
  unfold extractor extract
  cases kind with
  | file => exact .ok _
  | node => exact .error (Failure.unplaced_of _)
  | type | function =>
    dsimp only
    -- A tool that does not start or is cancelled ends in a fault, which has no place.
    cases tool.start _ with
    | error refusal => cases refusal <;> exact .error trivial
    | ok run =>
      cases hrun : run (Text.encode source) with
      | exited code output errors =>
        simp only [hrun]
        exact unplaced_result _ _ _ _ _ _
      | cancelled gone =>
        simp only [hrun, converse_cancelled]
        exact .error trivial

/-- Rendering a node knows of no document and no line. -/
private theorem Yaml.unplaced_renderNode (lib : Library) (g : Graph) (i : Nat) :
    UnplacedErrors (renderNode lib g i) := by
  unfold renderNode
  split
  · exact .error trivial
  · split
    · exact .ok _
    · exact .error trivial

/-- Showing a node knows of no document and no line. -/
private theorem Yaml.unplaced_showNode (lib : Library) (g : Graph) (i : Nat) (key : String) :
    UnplacedErrors (showNode lib g i key) := by
  unfold showNode
  split
  · exact .error (Failure.unplaced_of _)
  · exact .error (Failure.unplaced_of _)
  · exact (unplaced_renderNode lib g i).bind fun _ => .ok _
  · exact (unplaced_renderNode lib g i).bind fun _ => .ok _
  · exact .error (Failure.unplaced_of _)

/-- Following a path knows of no document and no line. -/
private theorem Yaml.unplaced_extractNode (lib : Library) (source name : String) :
    UnplacedErrors (extractNode lib source name) := by
  unfold extractNode
  cases lib.compose source with
  -- What the composer refuses and what is not there are both told without a place.
  | error flaw =>
    refine @UnplacedErrors.error _ flaw.failure ?_
    cases flaw with
    | invalid => exact Failure.unplaced_of _
    | fault f => trivial
  | ok composed =>
    cases composed with
    | none => exact @UnplacedErrors.error _ (.of .emptyYaml) (Failure.unplaced_of _)
    | some composed =>
      refine UnplacedErrors.bind (.ok composed) fun rooted => ?_
      dsimp only
      split
      -- The ways to get lost are told apart, and none of them has a place.
      · rename_i lost _
        refine .error ?_
        cases lost <;> exact Failure.unplaced_of _
      · exact (unplaced_showNode _ _ _ _).bind fun body => .ok _

/-- Cutting out of a YAML text knows of no document and no line. -/
private theorem Yaml.unplaced_extract (lib : Library) (source name : String) (kind : Kind) :
    UnplacedErrors (extract lib source name kind) := by
  cases kind with
  | file => exact .ok _
  | type | function => exact .error (Failure.unplaced_of _)
  | node => exact unplaced_extractNode lib source name

/-! ## Runs -/

namespace Run

variable {σ : Type} {p : Processor (World σ)}

/-- Listing the documents knows of no document and no line. -/
private theorem unplaced_listing (tree : FileTree) (directory : Path) :
    UnplacedErrors (listing tree directory) := by
  intro e he
  rcases listing_cases tree directory with ⟨_, -, -, hok⟩ | ⟨-, herror⟩ | ⟨f, hfault, -⟩
  · rw [hok] at he
    cases he
  · rw [herror] at he
    cases he
    exact Failure.unplaced_of _
  · rw [hfault] at he
    cases he
    trivial

/-- Reading a document tells no line; its path is added by the run. -/
private theorem unplaced_readDocument (tree : FileTree) (path : Path) :
    UnplacedErrors (readDocument tree path) := by
  unfold readDocument
  split
  · exact .error (Failure.unplaced_of _)
  · split
    · exact .ok _
    · exact .error (Failure.unplaced_of _)

/-- A document that cannot be written has no line. -/
theorem line_of_writeAll_eq_error {renderings : List Rendering} {tree tree' : FileTree}
    {problem : Problem Failure} {context : Context}
    (h : writeAll renderings tree = .error (.error problem context) tree') :
    context.line = none := by
  induction renderings generalizing tree with
  | nil => cases h
  | cons r rest ih =>
    unfold writeAll at h
    -- Only the failure of a writing has a context, and it names the path.
    cases hwrite : FileTree.write r.path (Text.encode r.after) tree with
    | error obstacle left =>
      rw [hwrite] at h
      cases h
      rfl
    | ok _ written =>
      rw [hwrite] at h
      exact ih h

/-- An error of a run that says a line is that of a document, whose path it says as well, and the
    line is that of the first directive there that fails. -/
theorem exists_failsAt_of_run_eq_error (hp : p.Unplaced) {directory : Path} {options : Options}
    {w w' : World σ} {problem : Problem Failure} {context : Context}
    (h : run p directory options w = .error (.error problem context) w')
    (hline : context.line ≠ none) :
    ∃ before path after renderings t document items line rest u uri inner s',
      listing w.tree directory = .ok (before ++ path :: after) ∧
        renderAll p before ⟨{}, w⟩ = .ok renderings t ∧
        readDocument t.tree path = .ok document ∧
        p.FailsAt (Text.lines document) t items line rest u uri (.error problem inner) s' ∧
        context = ⟨inner.uri.or uri, some path,
          some (((items.flatMap Document.Item.lines).length + 1 : Nat) : Int)⟩ := by
  -- Only rendering tells a line, so the other ways to fail are ruled out.
  generalize he : Failure.error problem context = e at h
  cases run_eq_error_iff.1 h with
  | listing hlisting =>
    subst he
    exact absurd (unplaced_listing _ _ _ hlisting).2 hline
  | reading _ _ hread =>
    cases he
    exact absurd (unplaced_readDocument _ _ _ hread).2 hline
  | rendering hlisting hbefore hread hrender =>
    cases he
    obtain ⟨items, line, rest, u, uri, inner, hfails, hlocates⟩ :=
      Processor.exists_locates hrender
    obtain ⟨hnumber, hpath⟩ := hlocates.of_unplaced hp
    refine ⟨_, _, _, _, _, _, items, line, rest, u, uri, inner, _, hlisting, hbefore, hread,
      hfails, ?_⟩
    rw [hpath, hnumber, hlocates.uri_eq]
    rfl
  | @ending _ _ _ _ _ _ _ inner _ _ _ _ herror =>
    -- The deadline is no line either.
    refine absurd ?_ hline
    cases inner with
    | error => exact absurd trivial herror
    | fault => cases he
    | stalled =>
      unfold atDeadline at he
      cases hlimit : options.timeout with
      | none => rw [hlimit] at he; cases he
      | some limit => rw [hlimit] at he; cases he; rfl
  | writing _ _ _ hwrite =>
    subst he
    exact absurd (line_of_writeAll_eq_error hwrite) hline

end Run

/-! ## The program -/

namespace CommandLine

variable {around : Surroundings} {settings : Settings} {p : Processor State}

/-- The fetcher of the program knows of no document and no line. -/
private theorem unplaced_gitHubFetcher (client : Web.Client) (token : Option String)
    (uri : String) :
    Action.Unplaced (World.beyond (gitHubFetcher client token uri) : Action State ByteArray) := by
  intro w e w' h
  have houtcome := (outcome_gitHubFetcher client token uri w).symm
  rw [h] at houtcome
  exact GitHub.unplaced_fetch client token uri e houtcome

/-- Excerpts of Go are cut by this library or by the external tool; nothing else is chosen. -/
theorem exists_go_of_processor (h : processor around settings = .ok p) :
    ∃ go, (go = Extractor.go around.go ∨ ∃ tool : Tool, go = tool.extractor around.go) ∧
      p = { builtIn around settings with
        extractors := fun
          | .go => some go
          | .yaml => some (Extractor.yaml around.yaml) } := by
  unfold processor at h
  cases hbackend : settings.goBackend with
  | builtIn =>
    -- The built-in reader is always there, and a tool only if one is known.
    rw [hbackend] at h
    cases h
    exact ⟨_, .inl rfl, rfl⟩
  | tool =>
    rw [hbackend] at h
    cases htool : around.tool with
    | none => rw [htool] at h; cases h
    | some tool =>
      rw [htool] at h
      cases h
      exact ⟨_, .inr ⟨tool, rfl⟩, rfl⟩

/-- Nothing that the program renders documents with says where in a document an error occurs. -/
theorem unplaced_processor (h : processor around settings = .ok p) : p.Unplaced := by
  obtain ⟨go, hgo, rfl⟩ := exists_go_of_processor h
  constructor
  -- The two fetchers, and then the extractors of the two languages.
  · intro fetcher hmem uri
    simp only [builtIn, List.mem_cons, List.not_mem_nil, or_false] at hmem
    rcases hmem with rfl | rfl
    · exact unplaced_gitHubFetcher _ _ _
    · exact fun w e w' he => Disk.unplaced_fetch _ _ _ e (Action.ofExcept_eq_error_iff.1 he).1
  · intro l extractor hextractor
    cases l with
    | go =>
      cases hextractor
      -- Go is read by the built-in reader or by a tool.
      rcases hgo with rfl | ⟨tool, rfl⟩
      · exact Go.unplaced_extract around.go
      · exact tool.unplaced_extract around.go
    | yaml =>
      cases hextractor
      exact Yaml.unplaced_extract around.yaml
  · intro l extractor hextractor name kind text
    cases l with
    | go =>
      cases hextractor
      rcases hgo with rfl | ⟨tool, rfl⟩
      · exact Go.unplaced_restore around.go name kind text
      · exact Go.unplaced_restore around.go name kind text
    | yaml =>
      cases hextractor
      exact UnplacedErrors.ok _

end CommandLine

end Transclude
