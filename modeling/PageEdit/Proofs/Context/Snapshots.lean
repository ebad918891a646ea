import Mathlib.Data.List.AList
import Mathlib.Data.List.Induction
import PageEdit.Context.Lookup
import PageEdit.Proofs.Outline.Identifiers
import PageEdit.Proofs.Outline.Tree

/-!
# Snapshots answer as outlines

An outline looks an entry up by going through its entries to the first that has the identifier. A snapshot
keeps a table of numbers instead, in which the last entry put down under an identifier stays. Where no two
entries share an identifier the two find the same, so all that is asked through them has the same answer,
whatever the index of sections names.

* `Snapshot.entry?_eq_position`: what the table of numbers leads to.
* `snapshots_answer_as_outlines`: the markup of sections and the sections around them.
-/

namespace PageEdit

namespace Snapshot

/-! ## Numbers of entries -/

/-- The numbers of some entries by their identifiers, put down one after the other. -/
def positions (entries : List Outline.Entry) : AList fun _ : String => Nat :=
  entries.zipIdx.foldl (fun table row => table.insert row.1.id row.2) ∅

theorem positions_concat (entries : List Outline.Entry) (e : Outline.Entry) :
    positions (entries ++ [e]) = (positions entries).insert e.id entries.length := by
  simp [positions, List.zipIdx_append]

theorem lookup_positions_lt {entries : List Outline.Entry} {id : String} {i : Nat}
    (h : (positions entries).lookup id = some i) : i < entries.length := by
  induction entries using List.reverseRecOn with
  | nil => cases h
  | append_singleton entries e ih =>
    rw [List.length_append, List.length_singleton]
    rw [positions_concat] at h
    by_cases hid : id = e.id
    · rw [hid, AList.lookup_insert, Option.some.injEq] at h
      omega
    · rw [AList.lookup_insert_ne hid] at h
      have := ih h
      omega

/-- An entry that is put down replaces one with the same identifier, so the table leads to the last one. -/
theorem entry?_eq_position (s : Snapshot) (id : String) :
    s.entry? id = ((positions s.entries).lookup id).bind (s.entries[·]?) := by
  unfold entry?
  induction s.entries using List.reverseRecOn with
  | nil => rfl
  | append_singleton entries e ih =>
    rw [List.reverse_append, List.reverse_singleton, List.singleton_append, List.find?_cons,
      positions_concat]
    by_cases hid : id = e.id
    · subst hid
      rw [AList.lookup_insert]
      simp
    · rw [beq_false_of_ne (Ne.symm hid), AList.lookup_insert_ne hid, ih]
      refine Option.bind_congr fun i hi => ?_
      rw [List.getElem?_append_left (lookup_positions_lt hi)]

/-! ## The same entries -/

/-- Whether a snapshot knows of the sections what an outline does. -/
def AnswersAs (s : Snapshot) (o : Outline) : Prop :=
  ∀ id, s.markup? id = o.sectionMarkup? id ∧ s.parent? id = o.parentSection? id

variable {o : Outline} {page : String}

theorem entry?_ofOutline (h : (o.entries.map (·.id)).Nodup) (id : String) :
    Snapshot.entry? (ofOutline o page) id = o.entry? id := by
  have hreverse : (o.entries.reverse.map (·.id)).Nodup := by
    rw [List.map_reverse]
    exact List.nodup_reverse.mpr h
  have hentry : Snapshot.entry? (ofOutline o page) id = o.entries.reverse.find? (·.id == id) := rfl
  rw [hentry, Outline.entry?]
  cases hfind : o.entries.find? (·.id == id) with
  | none =>
    rw [List.find?_eq_none] at hfind ⊢
    exact fun e he => hfind e (List.mem_reverse.mp he)
  | some e =>
    obtain rfl : e.id = id := by simpa using List.find?_some hfind
    exact Outline.find?_id_eq_some hreverse (List.mem_reverse.mpr (List.mem_of_find?_eq_some hfind))

/-- What an index names that is no entry is found by neither. -/
theorem sectionRoot?_eq (h : (o.entries.map (·.id)).Nodup) (id : String) :
    (ofOutline o page).sectionRoot? id = o.sectionRoot? id := by
  have hentry : Snapshot.entry? (ofOutline o page) = o.entry? := funext (entry?_ofOutline h)
  rw [sectionRoot?, Outline.sectionRoot?, hentry]
  rfl

theorem answersAs_ofOutline (h : (o.entries.map (·.id)).Nodup) (page : String) :
    (ofOutline o page).AnswersAs o := by
  have hentry : Snapshot.entry? (ofOutline o page) = o.entry? := funext (entry?_ofOutline h)
  refine fun id => ⟨?_, ?_⟩
  · rw [markup?, Outline.sectionMarkup?, sectionRoot?_eq h]
  · rw [parent?, Outline.parentSection?, sectionRoot?_eq h, hentry]

end Snapshot

/-! ## Main statement -/

/-- A snapshot finds its entries through a table of numbers. All the same it knows of the sections what the
outline does that it was made of, if no two entries of this share an identifier, whatever stands in its index.
So it is with the outline of a page. -/
theorem snapshots_answer_as_outlines :
    (∀ (s : Snapshot) (id : String),
      s.entry? id = ((Snapshot.positions s.entries).lookup id).bind (s.entries[·]?)) ∧
    (∀ o : Outline, (o.entries.map (·.id)).Nodup → ∀ page, (Snapshot.ofOutline o page).AnswersAs o) ∧
    ∀ html page, (Snapshot.ofOutline (.ofHtml html) page).AnswersAs (.ofHtml html) := by
  refine ⟨Snapshot.entry?_eq_position, fun o h page => Snapshot.answersAs_ofOutline h page,
    fun html page => Snapshot.answersAs_ofOutline ?_ page⟩
  have hids : ∀ doc, ((Outline.ofDocument Outline.shortHash doc html.utf8ByteSize).entries.map (·.id)).Nodup :=
    fun doc => (Outline.isTreeOf_ofDocument _ doc _).nodup_ids
  exact hids (.ofHtml html)

/-- An index that names no entry for one section and none that exists for another is answered from alike, and
so is one whose entry names a parent that does not exist. -/
theorem snapshots_answer_as_outlines_dangling :
    let entry : Outline.Entry := { (default : Outline.Entry) with id := "a", markup := "<p></p>", parent := some "b" }
    let o : Outline := { (default : Outline) with
      entries := [entry], sectionIndex := [("s", []), ("t", ["b"]), ("u", ["a", "b"])] }
    (o.entries.map (·.id)).Nodup ∧ (Snapshot.ofOutline o "").AnswersAs o ∧
      (Snapshot.ofOutline o "").markup? "u" = some "<p></p>" := by
  intro entry o
  have hids : (o.entries.map (·.id)).Nodup := List.nodup_singleton "a"
  have hanswers := snapshots_answer_as_outlines.2.1 o hids ""
  exact ⟨hids, hanswers, (hanswers "u").1.trans (by decide)⟩

end PageEdit
