import Transclude.Proofs.Text.Line
import Transclude.Proofs.Text.Return
import Transclude.Yaml.Extract

/-!
# YAML with carriage returns

A YAML text means the same with carriage returns in front of its newlines (`Alike`), so the excerpts
are the same (`extractNode_alike`).  None of them holds a carriage return but for what its key holds
(`excerpt_of_extractNode`).
-/

namespace Transclude.Yaml

variable {lib : Library} {source source' name : String} {snippet : Snippet} {g : Graph} {i : Nat}

/-- The library reads two sources alike that are the same up to carriage returns, and it writes no
    carriage returns for their nodes. -/
structure Alike (lib : Library) (source source' : String) : Prop where
  compose {composed : Option (Nat × Graph)} (h : lib.compose source = .ok composed) :
    lib.compose source' = .ok composed
  serialize {root : Nat} {g g' : Graph} {text : String}
    (hcompose : lib.compose source = .ok (some (root, g)))
    (hi : ∃ i < g.size, g.inlinedFrom lib.callDepth i = some g' ∧ lib.serialize g' i = .ok text) :
    '\r' ∉ text.toList

/-! ## Excerpts without carriage returns -/

/-- Nothing is added by leaving out the mark. -/
private theorem withoutMark_subset (text : String) : (withoutMark text).toList ⊆ text.toList := by
  unfold withoutMark
  split
  · rw [String.toList_ofList]
    exact List.take_subset _ _
  · exact List.Subset.refl _

/-- A node is rendered without carriage returns if it is written without any. -/
private theorem return_not_mem_of_renderNode {text : String}
    (h : ∀ g' text, g.inlinedFrom lib.callDepth i = some g' → lib.serialize g' i = .ok text →
      '\r' ∉ text.toList) (hrender : renderNode lib g i = .ok text) : '\r' ∉ text.toList := by
  unfold renderNode at hrender
  -- Only what was inlined is written, and only the mark in front of it is taken away.
  cases hinline : g.inlinedFrom lib.callDepth i with
  | none =>
    rw [hinline] at hrender
    cases hrender
  | some g' =>
    rw [hinline] at hrender
    cases hserialize : lib.serialize g' i with
    | error f =>
      simp only [hserialize] at hrender
      cases hrender
    | ok written =>
      simp only [hserialize] at hrender
      cases hrender
      exact fun hmem => h g' written hinline hserialize (withoutMark_subset written hmem)

/-- What is shown below a key holds no carriage return behind the key. -/
private theorem exists_belowKey_eq (key : String) {text : String} (h : '\r' ∉ text.toList) :
    ∃ rest, belowKey key text = key ++ ":" ++ rest ∧ '\r' ∉ rest.toList := by
  have hmark : ":\n" = ":" ++ "\n" := by decide
  refine ⟨"\n" ++ String.join (((Text.split '\n' text).filter (· ≠ "")).map fun line =>
    "  " ++ line ++ "\n"), ?_, ?_⟩
  · rw [belowKey, hmark]
    simp only [String.append_assoc]
  -- A line is one of the pieces of the text, so it brings no return with it.
  have hlines : ∀ line ∈ Text.split '\n' text, '\r' ∉ line.toList := fun line hline hmem =>
    h (Text.subset_of_mem_split hline hmem)
  simp only [String.toList_append, String.toList_join, List.mem_append, List.mem_flatMap,
    List.mem_map, List.mem_filter, not_or]
  refine ⟨by decide, ?_⟩
  rintro ⟨_, ⟨line, ⟨hline, -⟩, rfl⟩, hmem⟩
  simp only [String.toList_append, List.mem_append] at hmem
  rcases hmem with (hmem | hmem) | hmem
  · exact absurd hmem (by decide)
  · exact hlines line hline hmem
  · exact absurd hmem (by decide)

/-- A node is shown behind its key. -/
private theorem exists_of_showNode {key body : String}
    (hwritten : i < g.size → ∀ g' text, g.inlinedFrom lib.callDepth i = some g' →
      lib.serialize g' i = .ok text → '\r' ∉ text.toList)
    (h : showNode lib g i key = .ok body) :
    ∃ text, body = key ++ ":" ++ text ∧ '\r' ∉ text.toList := by
  have hmark : ": " = ":" ++ " " := by decide
  unfold showNode at h
  cases hnode : g[i]? with
  | none =>
    rw [hnode] at h
    cases h
  | some node =>
    have hi : i < g.size := (Array.getElem?_eq_some_iff.1 hnode).1
    rw [hnode] at h
    cases hrender : renderNode lib g i with
    | error e =>
      rw [hrender] at h
      cases node <;> cases h
    | ok rendering =>
      have hfree := return_not_mem_of_renderNode (hwritten hi) hrender
      rw [hrender] at h
      cases node with
      | aliasOf | sequence => cases h
      | scalar =>
        cases h
        refine ⟨" " ++ rendering, ?_, ?_⟩
        · rw [hmark]
          simp only [String.append_assoc]
        · simpa using hfree
      | mapping =>
        cases h
        exact exists_belowKey_eq key hfree

/-- An excerpt comes from a node of the graph, shown with the last key of its path. -/
theorem exists_of_extractNode (h : extractNode lib source name = .ok snippet) :
    ∃ root g i body, lib.compose source = .ok (some (root, g)) ∧
      g.walk root (Text.split '.' name) = .ok i ∧
      showNode lib g i ((Text.split '.' name).getLastD "") = .ok body ∧
      snippet = { name, body } := by
  unfold extractNode at h
  -- The excerpt is made of a document, a walk and what is shown, and each of the three may fail.
  cases hcompose : lib.compose source with
  | error flaw =>
    rw [hcompose] at h
    cases h
  | ok composed =>
    rw [hcompose] at h
    cases composed with
    | none => cases h
    | some composed =>
      obtain ⟨root, g⟩ := composed
      dsimp only [bind, Except.bind] at h
      cases hwalk : g.walk root (Text.split '.' name) with
      | error lost =>
        rw [hwalk] at h
        cases h
      | ok i =>
        rw [hwalk] at h
        dsimp only at h
        cases hshow : showNode lib g i ((Text.split '.' name).getLastD "") with
        | error e =>
          rw [hshow] at h
          cases h
        | ok body =>
          rw [hshow] at h
          cases h
          exact ⟨root, g, i, body, rfl, hwalk, hshow, rfl⟩

/-- An excerpt is a key of the path and a text without carriage returns. -/
theorem excerpt_of_extractNode (halike : Alike lib source source')
    (h : extractNode lib source name = .ok snippet) :
    ∃ key text, snippet = { name, body := key ++ ":" ++ text } ∧ key.toList ⊆ name.toList ∧
      '\r' ∉ text.toList := by
  obtain ⟨root, g, i, body, hcompose, -, hshow, rfl⟩ := exists_of_extractNode h
  obtain ⟨text, rfl, htext⟩ := exists_of_showNode
    (fun hi g' text hinline hserialize => halike.serialize hcompose ⟨i, hi, hinline, hserialize⟩)
    hshow
  refine ⟨_, text, rfl, ?_, htext⟩
  -- The path has at least one key, which may be empty.
  rcases List.mem_cons.1 (List.getLastD_mem_cons (l := Text.split '.' name) (a := ""))
    with hkey | hkey
  · rw [hkey]
    exact List.nil_subset _
  · exact Text.subset_of_mem_split hkey

/-- From a source with carriage returns the excerpt is the same. -/
theorem extractNode_alike (halike : Alike lib source source')
    (h : extractNode lib source name = .ok snippet) :
    extractNode lib source' name = .ok snippet := by
  obtain ⟨root, g, i, body, hcompose, hwalk, hshow, rfl⟩ := exists_of_extractNode h
  simp only [extractNode, halike.compose hcompose, bind, Except.bind, hwalk, hshow]
  rfl

end Transclude.Yaml
