import Mathlib.Data.List.Nodup
import PageEdit.Proofs.Outline.Building

/-!
# The identifiers of an outline

Entries and runs take their identifiers from one supply. What has been given is never given again, whatever
the hash makes of the seeds, so an identifier names one thing in the whole outline, and looking it up finds
that thing. The invariant is that the identifiers given so far are those of the entries and runs so far;
an addition gives one more.

* `Draft.Named`: the invariant, with what identifiers begin with.
* `identifiers_are_distinct`: the identifiers of a page.
-/

namespace PageEdit.Outline

open Html

/-! ## One identifier -/

/-- Whether an identifier begins as those of a kind do. -/
def HasKind (kind id : String) : Prop := (kind ++ "_").toList <+: id.toList

theorem hasKind_append (kind s : String) : HasKind kind (kind ++ "_" ++ s) :=
  ⟨s.toList, String.toList_append.symm⟩

theorem hasKind_salted {hash : String → String} {kind seed id : String} {given : List String}
    {n salt : Nat} (h : salted hash kind seed given n salt = some id) : HasKind kind id := by
  induction n generalizing salt with
  | zero => cases h
  | succ n ih =>
    simp only [salted] at h
    split at h
    · exact ih h
    · obtain rfl := Option.some.inj h
      exact hasKind_append kind _

theorem hasKind_fresh (hash : String → String) (kind seed : String) (given : List String) :
    HasKind kind (fresh hash kind seed given) := by
  unfold fresh
  simp only
  split
  · cases h : salted hash kind seed given saltLimit 1 with
    | none => exact hasKind_append kind _
    | some id => exact hasKind_salted h
  · exact hasKind_append kind _

/-! ## All identifiers of a draft -/

namespace Draft

/-- The identifiers of the entries and runs are those that have been given, each once. -/
structure Named (d : Draft) : Prop where
  given : d.given.Perm (d.entries.map (·.id) ++ d.runs.map (·.id))
  nodup : d.given.Nodup
  entries : ∀ e ∈ d.entries, HasKind "node" e.id
  runs : ∀ r ∈ d.runs, HasKind "text" r.id

theorem named_empty : empty.Named := ⟨.refl _, .nil, by simp [empty], by simp [empty]⟩

theorem nodup_given_fresh {given : List String} (h : given.Nodup) (hash : String → String)
    (kind seed : String) : (given ++ [fresh hash kind seed given]).Nodup :=
  List.nodup_append.mpr ⟨h, List.nodup_singleton _, fun _ ha _ hb hab =>
    fresh_not_mem hash kind seed given (List.mem_singleton.mp hb ▸ hab ▸ ha)⟩

variable {d : Draft} {hash : String → String}

theorem Named.addElement (h : d.Named) (owner : Option Owner) (outer : Option String) (e : Element)
    (children : List Node) : (d.addElement hash owner outer e children).1.Named := by
  refine ⟨?_, nodup_given_fresh h.nodup _ _ _, ?_, h.runs⟩
  · simp only [Draft.addElement, List.map_append, List.map_cons, List.map_nil]
    refine (h.given.append_right _).trans ?_
    rw [List.append_assoc, List.append_assoc]
    exact List.perm_append_comm.append_left _
  · intro entry hentry
    rcases List.mem_append.mp hentry with hentry | hentry
    · exact h.entries entry hentry
    · rw [List.mem_singleton.mp hentry]
      exact hasKind_fresh _ _ _ _

theorem Named.addRun (h : d.Named) (owner : Owner) (s : String) : (d.addRun hash owner s).Named := by
  simp only [Draft.addRun]
  split
  · exact h
  · refine ⟨?_, nodup_given_fresh h.nodup _ _ _, h.entries, ?_⟩
    · simp only [List.map_append, List.map_cons, List.map_nil]
      rw [← List.append_assoc]
      exact h.given.append_right _
    · intro run hrun
      rcases List.mem_append.mp hrun with hrun | hrun
      · exact h.runs run hrun
      · rw [List.mem_singleton.mp hrun]
        exact hasKind_fresh _ _ _ _

end Draft

theorem Built.named {hash : String → String} {outer : Option String} {walked : List Place}
    {owners : List (Place × Owner)} {d : Draft} (built : Built hash outer walked owners d) :
    d.Named := by
  induction built with
  | root node shown => exact Draft.named_empty.addElement none outer _ _
  | element built mem parent node shown ih => exact ih.addElement _ none _ _
  | run built mem parent node ih => exact ih.addRun _ _

/-! ## Looking up -/

/-- Where no two entries share an identifier, the entry with that of a given one is this one. -/
theorem find?_id_eq_some {entries : List Entry} (h : (entries.map (·.id)).Nodup) {e : Entry}
    (he : e ∈ entries) : entries.find? (·.id == e.id) = some e := by
  obtain ⟨f, hf⟩ := Option.isSome_iff_exists.mp
    (List.find?_isSome (p := (·.id == e.id)).mpr ⟨e, he, beq_self_eq_true _⟩)
  have hid : f.id = e.id := by simpa using List.find?_some hf
  rw [hf, List.inj_on_of_nodup_map h (List.mem_of_find?_eq_some hf) he hid]

theorem map_id_withChildren (entries all : List Entry) :
    (entries.map (Draft.withChildren all)).map (·.id) = entries.map (·.id) := by
  rw [List.map_map]
  rfl

/-! ## Main statement -/

/-- Whatever the hash is, no two things of a page have the same identifier, be they entries or runs. Those
of entries begin with `node_` and those of runs with `text_`, and the entry with the identifier of an entry
is this entry. -/
theorem identifiers_are_distinct (hash : String → String) (html : String) :
    let o := ofDocument hash (.ofHtml html) html.utf8ByteSize
    (o.entries.map (·.id) ++ o.runs.map (·.id)).Nodup ∧
      (∀ e ∈ o.entries, HasKind "node" e.id ∧ o.entry? e.id = some e) ∧
      ∀ r ∈ o.runs, HasKind "text" r.id := by
  -- any document will do
  generalize Document.ofHtml html = doc
  intro o
  obtain ⟨owners, hbuilt⟩ := built_ofDocument hash doc
  have hnamed := hbuilt.named
  have hnodup : (o.entries.map (·.id) ++ o.runs.map (·.id)).Nodup := by
    have hids : o.entries.map (·.id) = _ := map_id_withChildren _ _
    rw [hids]
    exact hnamed.given.nodup hnamed.nodup
  refine ⟨hnodup, fun e he => ⟨?_, find?_id_eq_some hnodup.of_append_left he⟩, hnamed.runs⟩
  obtain ⟨f, hf, rfl⟩ := List.mem_map.mp he
  exact hnamed.entries f hf

/-- With lengths for hashes, the second paragraph of this page collides with the first and gets the length
of its salted seed. Under it the paragraph is found again. -/
theorem identifiers_are_distinct_on_collision :
    let o := ofDocument (fun seed => toString seed.length) (.ofHtml "<p>ab<p>cd") 10
    (∃ e ∈ o.entries, e.id = "node_10" ∧ o.entry? "node_10" = some e) ∧
      ∃ r ∈ o.runs, r.text = "cd" ∧ HasKind "text" r.id := by
  intro o
  obtain ⟨-, hentries, hruns⟩ :=
    identifiers_are_distinct (fun seed => toString seed.length) "<p>ab<p>cd"
  have he : ∃ e ∈ o.entries, e.id = "node_10" := by decide +kernel
  have hr : ∃ r ∈ o.runs, r.text = "cd" := by decide +kernel
  obtain ⟨e, he, hid⟩ := he
  obtain ⟨r, hr, htext⟩ := hr
  exact ⟨⟨e, he, hid, hid ▸ (hentries e he).2⟩, r, hr, htext, hruns r hr⟩

end PageEdit.Outline
