import Transclude.Proofs.Action
import Transclude.Proofs.Yaml.Graph.OfTree

/-!
# Paths of keys

A path leads from mapping to mapping, each time to the value of the first entry with
the key (`Step`, `Leads`).  Neither an alias nor a sequence is entered, and a key that is
an alias or a collection is no key of a path.

`classified_extract` says how the extraction of a node ends by where its path leads, for
every text and every path, whatever reads and writes YAML, as long as what it reads are graphs.
What a single key does is settled first (`valueOf?_eq_some_iff`), then what a path does, by
induction on its keys (`walk_eq_ok_iff`, `exists_lostAt`).
-/

namespace Transclude.Yaml

namespace Graph

variable {g : Graph} {key : String} {keys : List String} {i j k : Nat}

/-! ## Where a path leads -/

/-- The node is a scalar that says `key`, whatever its style and its tag. -/
def Says (g : Graph) (key : String) (i : Nat) : Prop :=
  ∃ tag style, g[i]? = some (.scalar tag (Content.ofChars key.toList) style)

/-- The node is a mapping, and `j` is the value of its first entry with the key. -/
def Step (g : Graph) (key : String) (i j : Nat) : Prop :=
  ∃ tag inFlow before k after, g[i]? = some (.mapping tag inFlow (before ++ (k, j) :: after)) ∧
    g.Says key k ∧ ∀ entry ∈ before, ¬g.Says key entry.1

/-- From a node on, a path leads to another one. -/
inductive Leads (g : Graph) : Nat → List String → Nat → Prop
  | nil (i : Nat) : Leads g i [] i
  | cons {i j k : Nat} {key : String} {keys : List String} (hstep : g.Step key i j)
    (hrest : Leads g j keys k) : Leads g i (key :: keys) k

/-- A key is a scalar that says it. -/
private theorem isKey_iff : g.isKey key i = true ↔ g.Says key i := by
  unfold isKey Says
  cases hnode : g[i]? with
  | none => simp
  | some node => cases node <;> simp [and_comm, eq_comm]

/-- An entry is chosen if it has the key, and no entry in front of it does. -/
theorem valueOf?_eq_some_iff {entries : List (Nat × Nat)} :
    g.valueOf? key entries = some j ↔
      ∃ before k after, entries = before ++ (k, j) :: after ∧ g.Says key k ∧
        ∀ entry ∈ before, ¬g.Says key entry.1 := by
  unfold valueOf?
  -- The first entry whose key says the name is the one that is found.
  simp only [Option.map_eq_some_iff, List.find?_eq_some_iff_append, isKey_iff, Bool.not_eq_true']
  constructor
  · rintro ⟨⟨k, j'⟩, ⟨hkey, before, after, hentries, hbefore⟩, rfl⟩
    refine ⟨before, k, after, hentries, hkey, fun entry hentry hsays => ?_⟩
    have hnot := hbefore entry hentry
    simp [isKey_iff.2 hsays] at hnot
  · rintro ⟨before, k, after, hentries, hkey, hbefore⟩
    refine ⟨(k, j), ⟨hkey, before, after, hentries, fun entry hentry => ?_⟩, rfl⟩
    have hnot := mt isKey_iff.1 (hbefore entry hentry)
    simpa using hnot

/-- No entry is chosen if none has the key. -/
theorem valueOf?_eq_none_iff {entries : List (Nat × Nat)} :
    g.valueOf? key entries = none ↔ ∀ entry ∈ entries, ¬g.Says key entry.1 := by
  unfold valueOf?
  simp only [Option.map_eq_none_iff, List.find?_eq_none, isKey_iff]

/-- A step is made in a mapping, by the value of its key. -/
theorem step_iff :
    g.Step key i j ↔ ∃ tag inFlow entries, g[i]? = some (.mapping tag inFlow entries) ∧
      g.valueOf? key entries = some j := by
  -- A step is one entry of a mapping, and that entry is the first one of its key.
  constructor
  · rintro ⟨tag, inFlow, before, k, after, hnode, hkey, hbefore⟩
    exact ⟨tag, inFlow, _, hnode, valueOf?_eq_some_iff.2 ⟨before, k, after, rfl, hkey, hbefore⟩⟩
  · rintro ⟨tag, inFlow, entries, hnode, hvalue⟩
    obtain ⟨before, k, after, rfl, hkey, hbefore⟩ := valueOf?_eq_some_iff.1 hvalue
    exact ⟨tag, inFlow, before, k, after, hnode, hkey, hbefore⟩

/-- In a sound graph a path leads to a node. -/
theorem Leads.lt_size (hg : g.Sound) (hi : i < g.size) (h : g.Leads i keys j) : j < g.size := by
  induction h with
  | nil => exact hi
  | cons hstep _ ih =>
    obtain ⟨tag, inFlow, before, k, after, hnode, -, -⟩ := hstep
    exact ih (hg.closed _ _ hnode _ (by simp [Node.children]))

/-! ## Walking -/

/-- Where a path leads, the walk goes on with the keys that are left. -/
theorem Leads.walk_append (h : g.Leads i keys j) (rest : List String) :
    g.walk i (keys ++ rest) = g.walk j rest := by
  induction h with
  | nil => rfl
  | cons hstep _ ih =>
    obtain ⟨tag, inFlow, entries, hnode, hvalue⟩ := step_iff.1 hstep
    simp only [List.cons_append, walk, hnode, hvalue]
    exact ih

/-- A walk arrives where the path leads. -/
theorem walk_eq_ok_iff : g.walk i keys = .ok k ↔ g.Leads i keys k := by
  constructor
  · intro h
    -- The induction is on the keys; each one is a step to the next node.
    induction keys generalizing i with
    | nil =>
      cases h
      exact .nil _
    | cons key keys ih =>
      unfold walk at h
      split at h
      · rename_i tag inFlow entries hnode
        split at h
        · rename_i j hvalue
          exact .cons (step_iff.2 ⟨tag, inFlow, entries, hnode, hvalue⟩) (ih h)
        · cases h
      · cases h
      · cases h
  · intro h
    have hwalk := h.walk_append []
    rwa [List.append_nil] at hwalk

/-- A path leads to one node at most. -/
theorem Leads.unique (h : g.Leads i keys j) (h' : g.Leads i keys k) : j = k := by
  have hwalk := walk_eq_ok_iff.2 h
  rw [walk_eq_ok_iff.2 h'] at hwalk
  exact (Except.ok.inj hwalk).symm

/-- Why no step can be made from a node. -/
inductive Stuck (g : Graph) (key : String) (i : Nat) : Lost → Prop
  | notAMapping {node : Node} (hnode : g[i]? = some node)
    (hother : ∀ tag inFlow entries, node ≠ .mapping tag inFlow entries) :
    Stuck g key i (.notAMapping key node.kind)
  | noKey {tag : String} {inFlow : Bool} {entries : List (Nat × Nat)}
    (hnode : g[i]? = some (.mapping tag inFlow entries))
    (hnone : ∀ entry ∈ entries, ¬g.Says key entry.1) : Stuck g key i (.noKey key)

/-- A walk ends where it is stuck. -/
private theorem Stuck.walk_eq_error {lost : Lost} (h : g.Stuck key i lost) :
    g.walk i (key :: keys) = .error lost := by
  cases h with
  -- The walk stops where the node is not a mapping or has no such key.
  | @notAMapping node hnode hother =>
    cases node with
    | mapping tag inFlow entries => exact absurd rfl (hother tag inFlow entries)
    | aliasOf | scalar | sequence => simp only [walk, hnode]
  | noKey hnode hnone =>
    have hvalue : g.valueOf? key _ = none := valueOf?_eq_none_iff.2 hnone
    simp only [walk, hnode, hvalue]

/-- The keys lead on up to `key`, where no step can be made. -/
structure LostAt (g : Graph) (i : Nat) (keys : List String) (lost : Lost) (before : List String)
    (key : String) (after : List String) (j : Nat) : Prop where
  keys_eq : keys = before ++ key :: after
  leads : g.Leads i before j
  stuck : g.Stuck key j lost

/-- A walk is lost at the first step that cannot be made. -/
private theorem LostAt.walk_eq_error {lost : Lost} {before after : List String}
    (h : g.LostAt i keys lost before key after j) : g.walk i keys = .error lost := by
  rw [h.keys_eq, h.leads.walk_append]
  exact h.stuck.walk_eq_error

/-- A walk that does not arrive is stuck at one of its keys. -/
theorem exists_lostAt (hg : g.Sound) (hi : i < g.size) {lost : Lost}
    (h : g.walk i keys = .error lost) :
    ∃ before key after j, g.LostAt i keys lost before key after j := by
  induction keys generalizing i with
  | nil => cases h
  | cons key keys ih =>
    -- The walk is lost at this key or at a later one.
    unfold walk at h
    split at h
    · rename_i tag inFlow entries hmapping
      split at h
      · rename_i j hvalue
        have hstep := step_iff.2 ⟨tag, inFlow, entries, hmapping, hvalue⟩
        have hj : j < g.size := Leads.lt_size hg hi (.cons hstep (.nil j))
        obtain ⟨before, key', after, k, hat⟩ := ih hj h
        exact ⟨key :: before, key', after, k, by rw [hat.keys_eq, List.cons_append],
          .cons hstep hat.leads, hat.stuck⟩
      · rename_i hvalue
        cases h
        exact ⟨[], key, keys, i, rfl, .nil i, .noKey hmapping (valueOf?_eq_none_iff.1 hvalue)⟩
    -- A node that is no mapping ends the walk; there is always a node, since the graph is sound.
    · rename_i node hmapping hsome
      cases h
      exact ⟨[], key, keys, i, rfl, .nil i, .notAMapping hsome hmapping⟩
    · rename_i hnone
      rw [Array.getElem?_eq_getElem hi] at hnone
      cases hnone

end Graph

/-! ## What is extracted -/

/-- The node is one that is not shown: an alias or a sequence. -/
def Node.IsUnsupported (node : Node) : Prop :=
  node.IsAlias ∨ ∃ tag inFlow items, node = .sequence tag inFlow items

/-- What the library writes for a node from which no alias can be reached any more, without the mark
    behind it. -/
def Written (lib : Library) (g : Graph) (i : Nat) (rendering : String) : Prop :=
  ∃ g' text, g.inlinedFrom lib.callDepth i = some g' ∧ lib.serialize g' i = .ok text ∧
    rendering = withoutMark text

/-- A node is not written: the nodes that it leads to are too deep inside of each other, or the
    library does not write it. -/
inductive Unwritten (lib : Library) (g : Graph) (i : Nat) : Fault → Prop
  | deep (h : g.inlinedFrom lib.callDepth i = none) : Unwritten lib g i Fault.tooDeep
  | refused {g' : Graph} {f : Fault} (hinline : g.inlinedFrom lib.callDepth i = some g')
    (h : lib.serialize g' i = .error f) : Unwritten lib g i f

/-- The text of a node behind its key and the colon: a scalar stands in the same line, a mapping in
    the lines below, indented and without empty lines. -/
inductive Behind (rendering : String) : Node → String → Prop
  | scalar (tag : String) (content : Content) (style : Style) :
    Behind rendering (.scalar tag content style) (" " ++ rendering)
  | mapping (tag : String) (inFlow : Bool) (entries : List (Nat × Nat)) :
    Behind rendering (.mapping tag inFlow entries)
      ("\n" ++ String.join (((Text.split '\n' rendering).filter (· ≠ "")).map fun line =>
        "  " ++ line ++ "\n"))

/-- The path `name` leads from the root of the document to a node. -/
def Reached (name : String) (composed : Except Flaw (Option (Nat × Graph))) (g : Graph) (i : Nat)
    (node : Node) : Prop :=
  ∃ root, composed = .ok (some (root, g)) ∧ g.Leads root (Text.split '.' name) i ∧
    g[i]? = some node

/-- How the extraction of the node at the path `name` ends, by what the source means. -/
structure Classified (lib : Library) (name : String)
    (composed : Except Flaw (Option (Nat × Graph))) (result : Except Failure Snippet) : Prop where
  invalid : FailsIn .parseFailure result ↔ composed = .error .invalid
  nowhere : FailsIn .pathNotFound result ↔
    composed = .ok none ∨
      ∃ root g, composed = .ok (some (root, g)) ∧ ¬∃ i, g.Leads root (Text.split '.' name) i
  lost {root : Nat} {g : Graph} {lost : Graph.Lost} {before after : List String} {key : String}
    {i : Nat} (hcomposed : composed = .ok (some (root, g)))
    (hat : g.LostAt root (Text.split '.' name) lost before key after i) :
    result = .error lost.failure
  unsupported : FailsIn .unsupportedNode result ↔
    ∃ g i node, Reached name composed g i node ∧ node.IsUnsupported
  shown (snippet : Snippet) : result = .ok snippet ↔
    ∃ g i node, Reached name composed g i node ∧
      ∃ rendering text, Written lib g i rendering ∧ Behind rendering node text ∧
        ∃ keys key, Text.split '.' name = keys ++ [key] ∧
          snippet = { name, definition := "", body := key ++ ":" ++ text, braced := false }
  fault (f : Fault) : result = .error (.fault f) ↔
    composed = .error (.fault f) ∨
      ∃ g i node, Reached name composed g i node ∧ ¬node.IsUnsupported ∧ Unwritten lib g i f

section

variable {lib : Library} {source name : String} {root i : Nat} {g : Graph} {node : Node}
  {composed : Except Flaw (Option (Nat × Graph))}

/-- There is one node at most that the path leads to. -/
private theorem exists_reached_iff (h : Reached name composed g i node)
    {p : Graph → Nat → Node → Prop} :
    (∃ g i node, Reached name composed g i node ∧ p g i node) ↔ p g i node := by
  constructor
  -- There is only one graph, one way along the keys and one node at the end.
  · rintro ⟨g', i', node', ⟨root', hcompose', hleads', hnode'⟩, hp⟩
    obtain ⟨root, hcompose, hleads, hnode⟩ := h
    rw [hcompose] at hcompose'
    cases hcompose'
    rw [hleads.unique hleads'] at hnode ⊢
    rw [hnode] at hnode'
    cases hnode'
    exact hp
  · exact fun hp => ⟨g, i, node, h, hp⟩

/-- A path has a last key. -/
private theorem split_eq_append (name : String) :
    ∃ keys, Text.split '.' name = keys ++ [(Text.split '.' name).getLastD ""] := by
  have hne : Text.split '.' name ≠ [] := by simp [Text.split, Text.cut_ne_nil]
  refine ⟨(Text.split '.' name).dropLast, ?_⟩
  rw [List.getLastD_eq_getLast?, List.getLast?_eq_some_getLast hne, Option.getD_some,
    List.dropLast_concat_getLast]

/-- A node is written, or there is a fault. -/
private theorem renderNode_cases (lib : Library) (g : Graph) (i : Nat) :
    (∃ rendering, renderNode lib g i = .ok rendering ∧
        ∀ other, Written lib g i other ↔ other = rendering) ∧ (∀ f, ¬Unwritten lib g i f) ∨
      (∃ f, renderNode lib g i = .error (.fault f) ∧ ∀ other, Unwritten lib g i other ↔ other = f) ∧
        ∀ rendering, ¬Written lib g i rendering := by
  unfold renderNode Written
  -- Inlining may run out, writing may fail, or there is a text.
  cases hinline : g.inlinedFrom lib.callDepth i with
  | none =>
    refine .inr ⟨⟨_, rfl, fun other => ⟨fun h => ?_, fun h => ?_⟩⟩, by simp⟩
    · cases h with
      | deep => rfl
      | refused hinline' => rw [hinline] at hinline'; cases hinline'
    · rw [h]
      exact .deep hinline
  | some g' =>
    dsimp only
    cases hserialize : lib.serialize g' i with
    | ok text =>
      refine .inl ⟨⟨_, rfl, fun other => ?_⟩, fun f h => ?_⟩
      · simp [hserialize]
      · cases h with
        | deep hinline' => rw [hinline] at hinline'; cases hinline'
        | refused hinline' hserialize' =>
          rw [hinline] at hinline'
          cases hinline'
          rw [hserialize] at hserialize'
          cases hserialize'
    | error f =>
      refine .inr ⟨⟨f, rfl, fun other => ⟨fun h => ?_, fun h => ?_⟩⟩, by simp [hserialize]⟩
      · cases h with
        | deep hinline' => rw [hinline] at hinline'; cases hinline'
        | refused hinline' hserialize' =>
          rw [hinline] at hinline'
          cases hinline'
          rw [hserialize] at hserialize'
          exact (Except.error.inj hserialize').symm
      · rw [h]
        exact .refused hinline hserialize

/-- A path that is lost is not found. -/
private theorem Graph.Lost.exists_failure (lost : Graph.Lost) :
    ∃ problem, lost.failure = .of problem ∧ problem.category = .pathNotFound := by
  cases lost with
  | notAMapping key kind => exact ⟨.notAMapping key kind, rfl, rfl⟩
  | noKey key => exact ⟨.keyNotFound key, rfl, rfl⟩

/-- A walk that is lost gives its failure. -/
private theorem extractNode_of_walk_eq_error
    (hcompose : lib.compose source = .ok (some (root, g))) {lost : Graph.Lost}
    (hwalk : g.walk root (Text.split '.' name) = .error lost) :
    extractNode lib source name = .error lost.failure := by
  simp only [extractNode, hcompose, bind, Except.bind, hwalk]

/-- A walk that arrives shows the node with the last key. -/
theorem extractNode_of_leads (hcompose : lib.compose source = .ok (some (root, g)))
    (hleads : g.Leads root (Text.split '.' name) i) :
    extractNode lib source name =
      (showNode lib g i ((Text.split '.' name).getLastD "")).map fun body => { name, body } := by
  simp only [extractNode, hcompose, bind, Except.bind, Graph.walk_eq_ok_iff.2 hleads]
  cases showNode lib g i ((Text.split '.' name).getLastD "") <;> rfl

/-- A path that is lost. -/
private theorem classified_of_lost (hcompose : lib.compose source = .ok (some (root, g)))
    {lost : Graph.Lost} (hwalk : g.walk root (Text.split '.' name) = .error lost) :
    Classified lib name (.ok (some (root, g))) (extractNode lib source name) := by
  obtain ⟨problem, hfailure, hcategory⟩ := lost.exists_failure
  have hnowhere : ¬∃ i, g.Leads root (Text.split '.' name) i := by
    rintro ⟨i, hleads⟩
    rw [Graph.walk_eq_ok_iff.2 hleads] at hwalk
    cases hwalk
  have hreached : ∀ g' i node, ¬Reached name (.ok (some (root, g))) g' i node := by
    rintro g' i node ⟨root', he, hleads, -⟩
    cases he
    exact hnowhere ⟨i, hleads⟩
  rw [extractNode_of_walk_eq_error hcompose hwalk, hfailure]
  constructor
  case lost =>
    intro root' g' lost' before after key i he hat
    cases he
    rw [hat.walk_eq_error] at hwalk
    cases hwalk
    rw [hfailure]
  case nowhere =>
    simp only [failsIn_of_iff, hcategory, true_iff]
    exact .inr ⟨root, g, rfl, hnowhere⟩
  all_goals simp [hcategory, hreached]

/-- What is said of a node that the path leads to is said of the path. -/
private theorem classified_of_reached {result : Except Failure Snippet} {keys : List String}
    {key : String} (hreached : Reached name (.ok (some (root, g))) g i node)
    (hleads : g.Leads root (Text.split '.' name) i) (hkeys : Text.split '.' name = keys ++ [key])
    (hinvalid : ¬FailsIn .parseFailure result) (hnowhere : ¬FailsIn .pathNotFound result)
    (hunsupported : FailsIn .unsupportedNode result ↔ node.IsUnsupported)
    (hshown : ∀ snippet, result = .ok snippet ↔
      ∃ rendering text, Written lib g i rendering ∧ Behind rendering node text ∧
        snippet = { name, body := key ++ ":" ++ text })
    (hfault : ∀ f, result = .error (.fault f) ↔ ¬node.IsUnsupported ∧ Unwritten lib g i f) :
    Classified lib name (.ok (some (root, g))) result := by
  -- Every part of the statement is about the one node that the keys lead to.
  constructor
  case invalid => simpa using hinvalid
  case nowhere =>
    simp only [hnowhere, false_iff]
    rintro (he | ⟨root', g', he, hno⟩)
    · cases he
    · cases he
      exact hno ⟨i, hleads⟩
  case lost =>
    intro root' g' lost before after key i' he hat
    cases he
    have hwalk := hat.walk_eq_error
    rw [Graph.walk_eq_ok_iff.2 hleads] at hwalk
    cases hwalk
  case unsupported => rw [hunsupported, exists_reached_iff hreached]
  case shown =>
    intro snippet
    rw [hshown, exists_reached_iff hreached]
    constructor
    · rintro ⟨rendering, text, hwritten, hbehind, rfl⟩
      exact ⟨rendering, text, hwritten, hbehind, keys, key, hkeys, rfl⟩
    · rintro ⟨rendering, text, hwritten, hbehind, keys', key', hkeys', rfl⟩
      -- The last key is known from the path, so it is the one that is written.
      rw [hkeys] at hkeys'
      obtain ⟨-, hkey⟩ := List.append_inj' hkeys' rfl
      cases hkey
      exact ⟨rendering, text, hwritten, hbehind, rfl⟩
  case fault =>
    intro f
    rw [hfault, exists_reached_iff hreached]
    simp

/-- A node that is not supported is refused before anything is written. -/
private theorem classified_of_unsupported {problem : Problem Failure} {keys : List String}
    {key : String} (hreached : Reached name (.ok (some (root, g))) g i node)
    (hleads : g.Leads root (Text.split '.' name) i) (hkeys : Text.split '.' name = keys ++ [key])
    (hunsupported : node.IsUnsupported) (hcategory : problem.category = .unsupportedNode) :
    Classified lib name (.ok (some (root, g))) (.error (.of problem)) := by
  apply classified_of_reached hreached hleads hkeys
  · simp [hcategory]
  · simp [hcategory]
  · simp [hcategory, hunsupported]
  · intro snippet
    constructor
    · intro he
      cases he
    · -- Nothing is shown behind the key of such a node.
      rintro ⟨rendering, text, -, hbehind, -⟩
      cases hbehind <;> simp [Node.IsUnsupported, Node.IsAlias] at hunsupported
  · simp [hunsupported]

/-- A node that is shown behind its key, once it has been written. -/
private theorem classified_of_shown (lib : Library) (behind : String → String)
    {keys : List String} {key : String}
    (hreached : Reached name (.ok (some (root, g))) g i node)
    (hleads : g.Leads root (Text.split '.' name) i) (hkeys : Text.split '.' name = keys ++ [key])
    (hsupported : ¬node.IsUnsupported)
    (hbehind : ∀ rendering text, Behind rendering node text ↔ text = behind rendering) :
    Classified lib name (.ok (some (root, g)))
      ((renderNode lib g i).map fun rendering =>
        { name, body := key ++ ":" ++ behind rendering }) := by
  rcases renderNode_cases lib g i with ⟨⟨rendering, hrender, hwritten⟩, hunwritten⟩ |
    ⟨⟨f, hrender, hunwritten⟩, hwritten⟩
  · rw [hrender]
    apply classified_of_reached hreached hleads hkeys
    · simp [Except.map]
    · simp [Except.map]
    · simp [Except.map, hsupported]
    · intro snippet
      simp [Except.map, hwritten, hbehind, eq_comm]
    · simp [Except.map, hunwritten]
  · rw [hrender]
    apply classified_of_reached hreached hleads hkeys
    · simp [Except.map]
    · simp [Except.map]
    · simp [Except.map, hsupported]
    · simp [Except.map, hwritten]
    · intro f'
      simp [Except.map, hunwritten, hsupported, eq_comm]

/-- A path that leads to a node. -/
private theorem classified_of_leads (hg : g.Sound) (hroot : root < g.size)
    (hcompose : lib.compose source = .ok (some (root, g)))
    (hleads : g.Leads root (Text.split '.' name) i) :
    Classified lib name (.ok (some (root, g))) (extractNode lib source name) := by
  obtain ⟨node, hnode⟩ : ∃ node, g[i]? = some node :=
    ⟨_, Array.getElem?_eq_getElem (hleads.lt_size hg hroot)⟩
  have hreached : Reached name (.ok (some (root, g))) g i node := ⟨root, rfl, hleads, hnode⟩
  obtain ⟨keys, hkeys⟩ := split_eq_append name
  have hresult := extractNode_of_leads hcompose hleads
  generalize (Text.split '.' name).getLastD "" = key at hkeys hresult
  unfold showNode at hresult
  rw [hnode] at hresult
  rw [hresult]
  -- What is written behind the key depends on the node.
  cases node with
  | aliasOf t =>
    exact classified_of_unsupported hreached hleads hkeys (by simp [Node.IsUnsupported, Node.IsAlias])
      rfl
  | sequence tag inFlow items =>
    exact classified_of_unsupported hreached hleads hkeys (by simp [Node.IsUnsupported]) rfl
  | scalar tag content style =>
    have hblank : ": " = ":" ++ " " := by decide
    have hshown := classified_of_shown lib (" " ++ ·) hreached hleads hkeys
      (by simp [Node.IsUnsupported, Node.IsAlias]) fun rendering text =>
        ⟨fun h => by cases h; rfl, fun h => h ▸ .scalar tag content style⟩
    cases hrender : renderNode lib g i with
    | error e =>
      rw [hrender] at hshown
      exact hshown
    | ok rendering =>
      rw [hrender] at hshown
      simp only [bind, Except.bind, pure, Except.pure, Except.map, hblank]
      simpa only [Except.map, String.append_assoc] using hshown
  | mapping tag inFlow entries =>
    have hbreak : ":\n" = ":" ++ "\n" := by decide
    have hshown := classified_of_shown lib (fun rendering => "\n" ++
        String.join (((Text.split '\n' rendering).filter (· ≠ "")).map fun line =>
          "  " ++ line ++ "\n")) hreached hleads hkeys
      (by simp [Node.IsUnsupported, Node.IsAlias]) fun rendering text =>
        ⟨fun h => by cases h; rfl, fun h => h ▸ .mapping tag inFlow entries⟩
    cases hrender : renderNode lib g i with
    | error e =>
      rw [hrender] at hshown
      exact hshown
    | ok rendering =>
      rw [hrender] at hshown
      simp only [bind, Except.bind, pure, Except.pure, Except.map, belowKey, hbreak]
      simpa only [Except.map, String.append_assoc] using hshown

end

/-- For every text and every path, the extraction of a node ends as the meaning of the text says. -/
theorem classified_extract (lib : Library) (source name : String)
    (hsound : ∀ root g, lib.compose source = .ok (some (root, g)) → g.Sound ∧ root < g.size) :
    Classified lib name (lib.compose source) (extract lib source name .node) := by
  show Classified lib name (lib.compose source) (extractNode lib source name)
  -- The text may not be composed at all, it may hold nothing, or it holds one document.
  cases hcompose : lib.compose source with
  | error flaw =>
    have hreached : ∀ g i node, ¬Reached name (.error flaw) g i node := by
      rintro g i node ⟨root, he, -⟩
      cases he
    have hresult : extractNode lib source name = .error flaw.failure := by
      simp only [extractNode, hcompose, bind, Except.bind]
    rw [hresult]
    cases flaw with
    | invalid =>
      constructor <;> simp [Flaw.failure, Problem.category, hreached]
    | fault f =>
      constructor <;> simp [Flaw.failure, hreached, eq_comm]
  | ok document =>
    cases document with
    | none =>
      have hreached : ∀ g i node, ¬Reached name (.ok none) g i node := by
        rintro g i node ⟨root, he, -⟩
        cases he
      have hresult : extractNode lib source name = .error (.of .emptyYaml) := by
        simp only [extractNode, hcompose, bind, Except.bind]
      rw [hresult]
      constructor <;> simp [Problem.category, hreached]
    | some document =>
      obtain ⟨root, g⟩ := document
      obtain ⟨hg, hroot⟩ := hsound root g hcompose
      cases hwalk : g.walk root (Text.split '.' name) with
      | error lost => exact classified_of_lost hcompose hwalk
      | ok i => exact classified_of_leads hg hroot hcompose (Graph.walk_eq_ok_iff.1 hwalk)

/-- A mapping, and an alias that stands for it. -/
def sharedText : String := "a: &x\n  b: 1\nc: *x\n"

/-- The graph of `sharedText`. -/
def sharedGraph : Graph :=
  #[.mapping Tag.map false [(1, 2), (5, 6)], .scalar Tag.str (Content.ofChars ['a']) .plain,
    .mapping Tag.map false [(3, 4)], .scalar Tag.str (Content.ofChars ['b']) .plain,
    .scalar (standardTag "int") (Content.ofChars ['1']) .plain,
    .scalar Tag.str (Content.ofChars ['c']) .plain, .aliasOf 2]

/-- A path leads into the mapping, but not through the alias. -/
theorem classified_extract_shared :
    builtIn.compose sharedText = .ok (some (0, sharedGraph)) ∧
      (∀ root g, builtIn.compose sharedText = .ok (some (root, g)) → g.Sound ∧ root < g.size) ∧
      Classified builtIn "a.b" (builtIn.compose sharedText)
      (extract builtIn sharedText "a.b" .node) ∧
      Classified builtIn "c.b" (builtIn.compose sharedText)
      (extract builtIn sharedText "c.b" .node) ∧
      sharedGraph.walk 0 (Text.split '.' "a.b") = .ok 4 ∧
      sharedGraph.walk 0 (Text.split '.' "c.b") = .error (.notAMapping "b" "alias") := by
  have hsound : ∀ root g, builtIn.compose sharedText = .ok (some (root, g)) →
      g.Sound ∧ root < g.size := fun _ _ => sound_of_compose
  exact ⟨eq_ok_of_toOption (by decide +kernel), hsound,
    classified_extract builtIn sharedText "a.b" hsound,
    classified_extract builtIn sharedText "c.b" hsound, by rfl, by rfl⟩

end Transclude.Yaml
