import PageEdit.Proofs.Context.Snapshots
import PageEdit.Proofs.Relevance.Agreement

/-!
# How sections are nested

A section is nested in the section of what is around its first entry. This entry is listed behind the one
around it, so the section around comes into the index before the section itself: what leads outwards leads
towards the front of the index, and ends. Sections are beside each other if they are nested in the same
section, which is a relation that holds both ways.

* `Outline.exists_of_parent?`: the entries that a nesting comes from.
* `Snapshot.exists_leadsOut`: where parents come before, following them ends.
* `section_nesting_is_well_founded`: both, for the outline of a page, and the siblings of any snapshot.
-/

namespace PageEdit

namespace Snapshot

/-- The sections that the index of a snapshot names. -/
def ids (s : Snapshot) : List String := s.sectionIndex.map (·.1)

/-- Whether one follows the parents of a section through `outer` to one that has no parent. -/
def LeadsOut (s : Snapshot) : String → List String → Prop
  | id, [] => s.parent? id = none
  | id, p :: outer => s.parent? id = some p ∧ LeadsOut s p outer

/-! ## Following parents -/

/-- How the sections of a snapshot are nested: each comes behind the one around it. -/
structure IsWellNested (s : Snapshot) : Prop where
  ids_nodup : s.ids.Nodup
  behind : ∀ id p, s.parent? id = some p → ∃ earlier later, s.ids = earlier ++ id :: later ∧ p ∈ earlier
  leadsOut : ∀ id, ∃ outer, s.LeadsOut id outer ∧ (id :: outer).Nodup

theorem idxOf_lt {ids earlier later : List String} {id p : String} (hnodup : ids.Nodup)
    (h : ids = earlier ++ id :: later) (hp : p ∈ earlier) : ids.idxOf p < ids.idxOf id := by
  subst h
  have hid : id ∉ earlier := fun hmem =>
    (List.nodup_append.mp hnodup).2.2 id hmem id List.mem_cons_self rfl
  rw [List.idxOf_append_of_mem hp, List.idxOf_append_of_notMem hid]
  have := List.idxOf_lt_length_of_mem hp
  omega

/-- Where each parent comes before, following parents ends, and comes to no section twice. -/
theorem exists_leadsOut {s : Snapshot}
    (h : ∀ id p, s.parent? id = some p → s.ids.idxOf p < s.ids.idxOf id) (id : String) :
    ∃ outer, s.LeadsOut id outer ∧ (id :: outer).Nodup := by
  suffices hall : ∀ n id, s.ids.idxOf id = n →
      ∃ outer, s.LeadsOut id outer ∧ (id :: outer).Nodup ∧ ∀ x ∈ outer, s.ids.idxOf x < n by
    obtain ⟨outer, hout, hnodup, -⟩ := hall _ id rfl
    exact ⟨outer, hout, hnodup⟩
  intro n
  induction n using Nat.strongRecOn with
  | ind n ih =>
    intro id hn
    cases hp : s.parent? id with
    | none => exact ⟨[], hp, List.nodup_singleton id, by simp⟩
    | some p =>
      have hlt : s.ids.idxOf p < n := hn ▸ h id p hp
      obtain ⟨outer, hout, hnodup, hbefore⟩ := ih _ hlt p rfl
      have hall : ∀ x ∈ p :: outer, s.ids.idxOf x < n := by
        intro x hx
        rcases List.mem_cons.mp hx with rfl | hx
        · exact hlt
        · exact Nat.lt_trans (hbefore x hx) hlt
      refine ⟨p :: outer, ⟨hp, hout⟩, List.nodup_cons.mpr ⟨fun hid => ?_, hnodup⟩, hall⟩
      have := hall id hid
      omega

/-! ## Siblings -/

/-- How the siblings of the sections of a snapshot hang together. -/
structure SiblingsAgree (s : Snapshot) : Prop where
  symm : ∀ a b, b ∈ s.siblings a ↔ a ∈ s.siblings b
  irrefl : ∀ a, a ∉ s.siblings a
  mem_iff : ∀ a ∈ s.ids, ∀ b ∈ s.ids, a ≠ b →
    (b ∈ s.siblings a ↔ ∃ p, s.parent? a = some p ∧ s.parent? b = some p)
  parent_notMem : ∀ a p, s.parent? a = some p → p ∉ s.siblings a
  ordered : ∀ a, (s.siblings a).Sublist s.ids
  nodup : s.ids.Nodup → ∀ a, (s.siblings a).Nodup

variable {s : Snapshot} {a b p : String}

theorem mem_ids_of_parent? (h : s.parent? a = some p) : a ∈ s.ids := by
  obtain ⟨root, hroot, -⟩ := Option.bind_eq_some_iff.mp h
  obtain ⟨ids, hids, -⟩ := Option.bind_eq_some_iff.mp hroot
  obtain ⟨row, hfind, -⟩ := Option.map_eq_some_iff.mp hids
  have hrow : row.1 = a := by simpa using List.find?_some hfind
  exact hrow ▸ List.mem_map_of_mem (List.mem_of_find?_eq_some hfind)

/-- No section is nested in itself. -/
theorem parent?_ne (s : Snapshot) (a : String) : s.parent? a ≠ some a := by
  intro h
  obtain ⟨root, -, h⟩ := Option.bind_eq_some_iff.mp h
  obtain ⟨id, -, h⟩ := Option.bind_eq_some_iff.mp h
  obtain ⟨entry, -, h⟩ := Option.bind_eq_some_iff.mp h
  simp [Outline.enclosing, Option.filter_eq_some_iff] at h

theorem mem_siblings_iff : b ∈ s.siblings a ↔
    a ≠ b ∧ ∃ p, s.parent? a = some p ∧ s.parent? b = some p := by
  rw [mem_siblings]
  constructor
  · rintro ⟨-, hne, hsome, heq⟩
    obtain ⟨p, hp⟩ := Option.isSome_iff_exists.mp hsome
    exact ⟨hne.symm, p, hp, heq.trans hp⟩
  · rintro ⟨hne, p, ha, hb⟩
    exact ⟨mem_ids_of_parent? hb, hne.symm, by rw [ha, Option.isSome_some], hb.trans ha.symm⟩

theorem siblings_sublist (s : Snapshot) (a : String) : (s.siblings a).Sublist s.ids := by
  unfold siblings
  split
  · exact List.nil_sublist _
  · exact List.filter_sublist

theorem siblingsAgree (s : Snapshot) : s.SiblingsAgree where
  symm a b := by
    rw [mem_siblings_iff, mem_siblings_iff, ne_comm]
    exact and_congr_right fun _ => exists_congr fun _ => and_comm
  irrefl a ha := (mem_siblings_iff.mp ha).1 rfl
  mem_iff a _ b _ hne := by rw [mem_siblings_iff, and_iff_right hne]
  parent_notMem a p hp hmem := by
    obtain ⟨-, q, hq, hself⟩ := mem_siblings_iff.mp hmem
    obtain rfl : p = q := Option.some.inj (hp.symm.trans hq)
    exact parent?_ne s p hself
  ordered := siblings_sublist s
  nodup h a := h.sublist (siblings_sublist s a)

end Snapshot

/-! ## Sections of an outline -/

namespace Outline

theorem sectionIds_prefix (entries more : List Entry) :
    sectionIds entries <+: sectionIds (entries ++ more) := by
  induction more using List.reverseRecOn with
  | nil => simp only [List.append_nil, List.prefix_refl]
  | append_singleton more e ih =>
    rw [← List.append_assoc, sectionIds_append]
    cases e.sectionId with
    | none => exact ih
    | some id =>
      rw [Option.elim_some, Order.see]
      split
      · exact ih
      · exact ih.trans (List.prefix_append _ _)

/-- A section that no earlier entry has comes into the index behind those that earlier entries have. -/
theorem exists_sectionIds_eq {before : List Entry} (after : List Entry) {entry : Entry} {id : String}
    (hentry : entry.sectionId = some id) (hnew : ∀ e ∈ before, e.sectionId ≠ some id) :
    ∃ later, sectionIds (before ++ entry :: after) = sectionIds before ++ id :: later := by
  have hid : id ∉ sectionIds before := fun hmem => by
    obtain ⟨e, he, hsection⟩ := mem_sectionIds.mp hmem
    exact hnew e he hsection
  obtain ⟨later, hlater⟩ := sectionIds_prefix (before ++ [entry]) after
  rw [sectionIds_append, hentry, Option.elim_some, Order.see, if_neg hid] at hlater
  exact ⟨later, by simpa using hlater.symm⟩

variable {hash : String → String} {doc : Html.Document} {size : Nat} {page id p : String}

theorem ids_ofOutline : (Snapshot.ofOutline (ofDocument hash doc size) page).ids =
    sectionIds (ofDocument hash doc size).entries := by
  simp [Snapshot.ids, Snapshot.ofOutline, ofDocument, Draft.finish, ofEntries, Function.comp_def]

/-- A section is nested in that of an entry which stands before its first one. -/
theorem exists_of_parent? (h : (Snapshot.ofOutline (ofDocument hash doc size) page).parent? id = some p) :
    ∃ before entry after, (ofDocument hash doc size).entries = before ++ entry :: after ∧
      entry.sectionId = some id ∧ (∀ e ∈ before, e.sectionId ≠ some id) ∧
      ∃ f ∈ before, f.sectionId = some p := by
  have htree := isTreeOf_ofDocument hash doc size
  obtain ⟨root, hroot, hup⟩ := Option.bind_eq_some_iff.mp h
  obtain ⟨fid, hfid, haround⟩ := Option.bind_eq_some_iff.mp hup
  obtain ⟨f, hf, henclosing⟩ := Option.bind_eq_some_iff.mp haround
  have hfind : (ofDocument hash doc size).entries.find? (·.sectionId == some id) = some root :=
    (sectionRoot?_ofOutline htree.nodup_ids page id).symm.trans hroot
  obtain ⟨hsection, before, after, hsplit, hnew⟩ := List.find?_eq_some_iff_append.mp hfind
  have hget : (ofDocument hash doc size).entries[before.length]? = some root := by
    rw [hsplit]
    simp
  refine ⟨before, root, after, hsplit, by simpa using hsection, fun e he => by simpa using hnew e he, ?_⟩
  cases hlength : before.length with
  | zero =>
    -- the first entry of all has no parent
    obtain ⟨entry, hfirst, hnone, -⟩ := htree.root
    rw [hlength, hfirst, Option.some.injEq] at hget
    rw [← hget, hnone] at hfid
    cases hfid
  | succ i =>
    rw [hlength] at hget
    obtain ⟨hlt, -⟩ := List.getElem?_eq_some_iff.mp hget
    have hplace := List.getElem?_eq_getElem (htree.length_eq ▸ hlt)
    obtain ⟨j, -, g, hj, -, hg, -, hparent, -⟩ := htree.child i _ root hplace hget
    obtain rfl : fid = g.id := Option.some.inj (hfid.symm.trans hparent)
    have hgf : g = f := by
      rw [Snapshot.entry?_ofOutline htree.nodup_ids, entry?,
        find?_id_eq_some htree.nodup_ids (List.mem_of_getElem? hg)] at hf
      exact Option.some.inj hf
    have hmem : g ∈ before := by
      rw [hsplit, List.getElem?_append_left (by omega)] at hg
      exact List.mem_of_getElem? hg
    have hp : f.sectionId = some p := (Option.filter_eq_some_iff.mp henclosing).1
    exact ⟨g, hmem, hgf ▸ hp⟩

theorem isWellNested_ofOutline (hash : String → String) (doc : Html.Document) (size : Nat) (page : String) :
    (Snapshot.ofOutline (ofDocument hash doc size) page).IsWellNested := by
  have hnodup : (Snapshot.ofOutline (ofDocument hash doc size) page).ids.Nodup := by
    rw [ids_ofOutline]
    exact Order.distinct_nodup _
  have hbehind : ∀ id p, (Snapshot.ofOutline (ofDocument hash doc size) page).parent? id = some p →
      ∃ earlier later, (Snapshot.ofOutline (ofDocument hash doc size) page).ids =
        earlier ++ id :: later ∧ p ∈ earlier := by
    intro id p h
    obtain ⟨before, entry, after, hsplit, hsection, hnew, f, hf, hfsection⟩ := exists_of_parent? h
    obtain ⟨later, hlater⟩ := exists_sectionIds_eq after hsection hnew
    refine ⟨sectionIds before, later, ?_, mem_sectionIds.mpr ⟨f, hf, hfsection⟩⟩
    rw [ids_ofOutline, hsplit, hlater]
  refine ⟨hnodup, hbehind, Snapshot.exists_leadsOut fun id p h => ?_⟩
  obtain ⟨earlier, later, hids, hp⟩ := hbehind id p h
  exact Snapshot.idxOf_lt hnodup hids hp

end Outline

/-! ## Main statement -/

/-- Whatever page a snapshot is made of, the section around a section comes before it in the index, so that
following these ends at a section with none around it, and comes to no section twice. In any snapshot whatever,
siblings are the different sections that have the same parent; this parent is not among them. -/
theorem section_nesting_is_well_founded :
    (∀ html page, (Snapshot.ofOutline (.ofHtml html) page).IsWellNested) ∧
      ∀ s : Snapshot, s.SiblingsAgree :=
  ⟨fun html page => Outline.isWellNested_ofOutline Outline.shortHash (.ofHtml html) html.utf8ByteSize page,
    Snapshot.siblingsAgree⟩

/-- A section that is named again inside one that is nested in it has no parent all the same. -/
example :
    let html := "<main data-section-id=a><p data-section-id=b></p><div data-section-id=c><p data-section-id=a>"
    let s := Snapshot.ofOutline (Outline.ofDocument id (.ofHtml html) 0) ""
    s.ids = ["a", "b", "c"] ∧ s.ids.map s.parent? = [none, some "a", some "a"] ∧ s.siblings "b" = ["c"] := by
  decide +kernel

end PageEdit
