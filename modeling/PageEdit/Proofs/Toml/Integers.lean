import PageEdit.Toml.Reader

/-!
# Integers in a document

An integer is read only if it is less than `2^63`, and what follows makes no others: values are put into lists
and tables, and statements put them into the tables under construction. So all integers in a document are
less than `2^63`.

* `scalar?_fits`: what a word stands for fits.
* `reading_fits`: what is read as a value fits, however deep it is.
* `add_fits`: a statement keeps what fits.
* `Value.ofText?_fits`: a document fits.
-/

namespace PageEdit.Toml

/-! ## Postconditions of readers -/

/-- Every result of `x` satisfies `P`. -/
def Gives {α : Type} (x : Option α) (P : α → Prop) : Prop := ∀ a, x = some a → P a

section

variable {α β : Type} {P : α → Prop} {Q : β → Prop}

theorem gives_none : Gives none P := nofun

theorem gives_some {a : α} (h : P a) : Gives (some a) P := by
  rintro _ ⟨⟩
  exact h

theorem gives_ite {c : Prop} [Decidable c] {x y : Option α} (hx : c → Gives x P) (hy : ¬c → Gives y P) :
    Gives (if c then x else y) P := by
  split
  · exact hx ‹_›
  · exact hy ‹_›

theorem gives_or {x y : Option α} (hx : Gives x P) (hy : Gives y P) : Gives (x.or y) P := by
  cases x with
  | none => exact hy
  | some a => exact hx

theorem gives_bind {x : Option α} {f : α → Option β} (hx : Gives x P)
    (hf : ∀ a, P a → Gives (f a) Q) : Gives (x >>= f) Q := by
  cases x with
  | none => exact gives_none
  | some a => exact hf a (hx a rfl)

theorem gives_map {x : Option α} {f : α → β} (hx : Gives x P) (hf : ∀ a, P a → Q (f a)) :
    Gives (x.map f) Q := by
  cases x with
  | none => exact gives_none
  | some a => exact gives_some (hf a (hx a rfl))

theorem gives_true (x : Option α) : Gives x fun _ => True := fun _ _ => trivial

/-- A fold that may fail keeps what each of its steps keeps. -/
theorem gives_foldlM {f : β → α → Option β} {xs : List α} {b : β} (hb : Q b)
    (hf : ∀ a ∈ xs, ∀ b, Q b → Gives (f b a) Q) : Gives (xs.foldlM f b) Q := by
  induction xs generalizing b with
  | nil => exact gives_some hb
  | cons a xs ih =>
    obtain ⟨ha, hxs⟩ := List.forall_mem_cons.mp hf
    rw [List.foldlM_cons]
    exact gives_bind (ha b hb) fun b' hb' => ih hb' hxs

end

/-! ## Values -/

/-- All integers in a value are less than `2^63`. -/
inductive Value.Fits : Value → Prop
  | text (s : String) : Fits (.text s)
  | integer {n : Int} (h : n < (Nat.pow 2 63 : Nat)) : Fits (.integer n)
  | float (written : String) : Fits (.float written)
  | bool (b : Bool) : Fits (.bool b)
  | moment (written : String) : Fits (.moment written)
  | list {items : List Value} (h : ∀ v ∈ items, Fits v) : Fits (.list items)
  | table {members : List (String × Value)} (h : ∀ p ∈ members, Fits p.2) : Fits (.table members)

theorem small?_fits (n : Nat) : Gives (small? n) Value.Fits := by
  exact gives_ite (fun h => gives_some (.integer (Int.ofNat_lt.mpr h))) fun _ => gives_none

theorem markedInteger?_fits (s : List Char) : Gives (markedInteger? s) Value.Fits := by
  unfold markedInteger?
  split
  all_goals first
    | exact gives_none
    | exact gives_ite (fun _ => small?_fits _) fun _ => gives_none

theorem decimalInteger?_fits (s : List Char) : Gives (decimalInteger? s) Value.Fits := by
  unfold decimalInteger?
  refine gives_ite (fun _ => ?_) fun _ => gives_none
  refine gives_ite (fun _ => ?_) fun _ => small?_fits _
  refine gives_ite (fun _ => gives_some (.integer ?_)) fun _ => gives_none
  have hpos : 0 < Nat.pow 2 63 := by decide
  omega

/-- A float is kept as it is written. -/
theorem float?_fits (s : List Char) : Gives (float? s) Value.Fits := by
  unfold float?
  refine gives_ite (fun _ => gives_none) fun _ => ?_
  simp only
  split
  · exact gives_none
  · exact gives_none
  · refine gives_ite (fun _ => gives_none) fun _ => ?_
    exact gives_ite (fun _ => gives_none) fun _ => gives_some (.float _)

theorem special?_fits (s : List Char) : Gives (special? s) Value.Fits :=
  gives_ite (fun _ => gives_some (.float _)) fun _ => gives_none

theorem scalar?_fits (s : List Char) : Gives (scalar? s) Value.Fits := by
  unfold scalar?
  refine gives_ite (fun _ => gives_some (.bool _)) fun _ => ?_
  refine gives_ite (fun _ => gives_some (.bool _)) fun _ => ?_
  refine gives_ite (fun _ => gives_some (.moment _)) fun _ => ?_
  exact gives_or (special?_fits s)
    (gives_or (float?_fits s) (gives_or (markedInteger?_fits s) (decimalInteger?_fits s)))

/-! ## Tables under construction -/

/-- All integers in a member of a table under construction are less than `2^63`. -/
inductive Item.Fits : Item → Prop
  | leaf {v : Value} (h : v.Fits) : Fits (.leaf v)
  | table (origin : Origin) {members : Members} (h : ∀ p ∈ members, Fits p.2) :
      Fits (.table origin members)
  | tables {done : List Members} {last : Members} (hdone : ∀ members ∈ done, ∀ p ∈ members, Fits p.2)
      (hlast : ∀ p ∈ last, Fits p.2) : Fits (.tables done last)

/-- All integers in a table under construction are less than `2^63`. -/
def Members.Fits (members : Members) : Prop := ∀ p ∈ members, p.2.Fits

theorem members_nil_fits : Members.Fits [] := nofun

theorem alter_fits {key : String} {f : Option Item → Option Item} {members : Members}
    (hf : ∀ item?, Gives item? Item.Fits → Gives (f item?) Item.Fits) (h : members.Fits) :
    Gives (alter key f members) Members.Fits := by
  induction members with
  | nil => exact gives_map (hf none gives_none) fun item hitem => by simpa [Members.Fits] using hitem
  | cons p rest ih =>
    obtain ⟨hp, hrest⟩ := List.forall_mem_cons.mp h
    unfold alter
    refine gives_ite (fun _ => ?_) fun _ => ?_
    · exact gives_map (hf _ (gives_some hp)) fun item hitem => List.forall_mem_cons.mpr ⟨hitem, hrest⟩
    · exact gives_map (ih hrest) fun rest' hrest' => List.forall_mem_cons.mpr ⟨hp, hrest'⟩

theorem give_fits {key : String} {item : Item} {members : Members} (hitem : item.Fits)
    (h : members.Fits) : Gives (give key item members) Members.Fits := by
  refine alter_fits (fun item? hitem? => ?_) h
  cases item? with
  | none => exact gives_some hitem
  | some _ => exact gives_none

theorem assign_fits {key : String} {v : Value} (hv : v.Fits) (path : List String) {members : Members}
    (h : members.Fits) : Gives (assign key v path members) Members.Fits := by
  induction path generalizing members with
  | nil => exact give_fits (.leaf hv) h
  | cons step path ih =>
    refine alter_fits (fun item? hitem? => ?_) h
    split
    · exact gives_map (ih members_nil_fits) fun _ => .table .dotted
    · exact gives_none
    · exact gives_none
    · cases hitem? _ rfl with
      | table _ hmembers =>
        exact gives_ite (fun _ => gives_none) fun _ => gives_map (ih hmembers) fun _ => .table _
    · cases hitem? _ rfl with
      | tables hdone hlast =>
        exact gives_ite (fun _ => gives_none) fun _ => gives_map (ih hlast) fun _ => .tables hdone

theorem inside_fits {f : Members → Option Members}
    (hf : ∀ members : Members, members.Fits → Gives (f members) Members.Fits) (path : List String)
    {members : Members} (h : members.Fits) : Gives (inside f path members) Members.Fits := by
  induction path generalizing members with
  | nil => exact hf members h
  | cons step path ih =>
    refine alter_fits (fun item? hitem? => ?_) h
    split
    · exact gives_map (ih members_nil_fits) fun _ => .table .around
    · exact gives_none
    · cases hitem? _ rfl with
      | table _ hmembers => exact gives_map (ih hmembers) fun _ => .table _
    · cases hitem? _ rfl with
      | tables hdone hlast => exact gives_map (ih hlast) fun _ => .tables hdone

theorem openTable_fits {key : String} {members : Members} (h : members.Fits) :
    Gives (openTable key members) Members.Fits := by
  refine alter_fits (fun item? hitem? => ?_) h
  split
  · exact gives_some (.table .header members_nil_fits)
  · cases hitem? _ rfl with
    | table _ hmembers => exact gives_some (.table .header hmembers)
  · exact gives_none

theorem openNext_fits {key : String} {members : Members} (h : members.Fits) :
    Gives (openNext key members) Members.Fits := by
  refine alter_fits (fun item? hitem? => ?_) h
  split
  · exact gives_some (.tables nofun members_nil_fits)
  · cases hitem? _ rfl with
    | tables hdone hlast =>
      have hsnoc := List.forall_mem_append.mpr ⟨hdone, List.forall_mem_singleton.mpr hlast⟩
      exact gives_some (.tables hsnoc members_nil_fits)
  · exact gives_none

/-! ## Finished tables -/

mutual

theorem item_value_fits : ∀ item : Item, item.Fits → item.value.Fits
  | .leaf _, .leaf h => h
  | .table _ members, .table _ h => .table (valuesOf_fits members h)
  | .tables done last, .tables hdone hlast => .list <| List.forall_mem_append.mpr
    ⟨tablesOf_fits done hdone, List.forall_mem_singleton.mpr (.table (valuesOf_fits last hlast))⟩

theorem valuesOf_fits : ∀ members : List (String × Item), (∀ p ∈ members, p.2.Fits) →
    ∀ p ∈ valuesOf members, p.2.Fits
  | [], _ => nofun
  | (_, item) :: rest, h => List.forall_mem_cons.mpr
    ⟨item_value_fits item (h _ List.mem_cons_self),
      valuesOf_fits rest fun p hp => h p (List.mem_cons_of_mem _ hp)⟩

theorem tablesOf_fits : ∀ tables : List (List (String × Item)),
    (∀ members ∈ tables, ∀ p ∈ members, p.2.Fits) → ∀ v ∈ tablesOf tables, v.Fits
  | [], _ => nofun
  | members :: rest, h => List.forall_mem_cons.mpr
    ⟨.table (valuesOf_fits members (h _ List.mem_cons_self)),
      tablesOf_fits rest fun m hm => h m (List.mem_cons_of_mem _ hm)⟩

end

theorem tableOf?_fits {pairs : List (List String × String × Value)} (h : ∀ p ∈ pairs, p.2.2.Fits) :
    Gives (tableOf? pairs) Value.Fits := by
  refine gives_bind (gives_foldlM members_nil_fits fun p hp members hmembers => ?_)
    fun members hmembers => gives_some (.table (valuesOf_fits members hmembers))
  exact assign_fits (h p hp) p.1 hmembers

/-! ## Reading values -/

theorem readScalar_fits (s : List Char) : Gives (readScalar s) fun r => r.1.Fits := by
  have hword (word rest : List Char) : Gives ((scalar? word).map (·, rest)) fun r => r.1.Fits :=
    gives_map (scalar?_fits word) fun _ h => h
  unfold readScalar
  simp only
  split
  · exact gives_ite (fun _ => hword _ _) fun _ => hword _ _
  · exact hword _ _

/-- What is read with some fuel fits: a value, a list of which some items are done and a table of which some
assignments are done. -/
theorem reading_fits (fuel : Nat) :
    (∀ depth s, Gives (readValue fuel depth s) fun r => r.1.Fits) ∧
    (∀ depth done s, (∀ v ∈ done, v.Fits) → Gives (readItems fuel depth done s) fun r => r.1.Fits) ∧
    ∀ depth done s, (∀ p ∈ done, p.2.2.Fits) →
      Gives (readMembers fuel depth done s) fun r => r.1.Fits := by
  induction fuel with
  | zero => exact ⟨fun _ _ => gives_none, fun _ _ _ _ => gives_none, fun _ _ _ _ => gives_none⟩
  | succ fuel ih =>
    obtain ⟨readValue_fits, readItems_fits, readMembers_fits⟩ := ih
    refine ⟨fun depth s => ?value, fun depth done s hdone => ?items, fun depth done s hdone => ?members⟩
    case value =>
      unfold readValue
      split
      · exact gives_ite (fun _ => gives_none) fun _ => readItems_fits _ _ _ nofun
      · refine gives_ite (fun _ => gives_none) fun _ => ?_
        split
        · exact gives_some (.table nofun)
        · exact readMembers_fits _ _ _ nofun
      · exact gives_map (gives_true _) fun _ _ => .text _
      · exact gives_map (gives_true _) fun _ _ => .text _
      · exact readScalar_fits s
    case items =>
      have hsnoc {v : Value} (hv : v.Fits) : ∀ w ∈ done ++ [v], w.Fits :=
        List.forall_mem_append.mpr ⟨hdone, List.forall_mem_singleton.mpr hv⟩
      unfold readItems
      split
      · exact gives_some (.list hdone)
      · refine gives_bind (readValue_fits _ _) fun (v, rest) hv => ?_
        simp only
        split
        · exact readItems_fits _ _ _ (hsnoc hv)
        · exact gives_some (.list (hsnoc hv))
        · exact gives_none
    case members =>
      unfold readMembers
      refine gives_bind (gives_true _) fun ((path, key), rest) _ => ?_
      simp only
      split
      · refine gives_bind (readValue_fits _ _) fun (v, rest) hv => ?_
        have hsnoc : ∀ p ∈ done ++ [(path, key, v)], p.2.2.Fits :=
          List.forall_mem_append.mpr ⟨hdone, List.forall_mem_singleton.mpr hv⟩
        simp only
        split
        · exact readMembers_fits _ _ _ hsnoc
        · exact gives_bind (tableOf?_fits hsnoc) fun _ h => gives_some h
        · exact gives_none
      · exact gives_none

/-! ## Documents -/

/-- All integers in a statement are less than `2^63`. -/
def Statement.Fits : Statement → Prop
  | .assign _ _ v => v.Fits
  | .header .. | .nextHeader .. => True

theorem readAssignment_fits (s : List Char) : Gives (readAssignment s) fun r => r.1.Fits := by
  refine gives_bind (gives_true _) fun ((path, key), rest) _ => ?_
  simp only
  split
  · refine gives_bind ((reading_fits _).1 _ _) fun (v, rest) hv => ?_
    exact gives_bind (gives_true _) fun _ _ => gives_some hv
  · exact gives_none

theorem readHeader_fits (s : List Char) : Gives (readHeader s) fun r => r.1.Fits := by
  unfold readHeader
  split
  · refine gives_bind (gives_true _) fun ((path, key), rest) _ => ?_
    simp only
    split
    · exact gives_bind (gives_true _) fun _ _ => gives_some (by trivial)
    · exact gives_none
  · refine gives_bind (gives_true _) fun ((path, key), rest) _ => ?_
    simp only
    split
    · exact gives_bind (gives_true _) fun _ _ => gives_some (by trivial)
    · exact gives_none
  · exact gives_none

theorem readStatements_fits (fuel : Nat) (s : List Char) :
    Gives (readStatements fuel s) fun statements => ∀ statement ∈ statements, statement.Fits := by
  induction fuel generalizing s with
  | zero => exact gives_none
  | succ fuel ih =>
    unfold readStatements
    split
    · exact gives_some nofun
    · refine gives_bind (readHeader_fits _) fun r hr => ?_
      exact gives_bind (ih _) fun _ hrest => gives_some (List.forall_mem_cons.mpr ⟨hr, hrest⟩)
    · refine gives_bind (readAssignment_fits _) fun r hr => ?_
      exact gives_bind (ih _) fun _ hrest => gives_some (List.forall_mem_cons.mpr ⟨hr, hrest⟩)

theorem add_fits {d : Draft} {statement : Statement} (hd : d.root.Fits) (h : statement.Fits) :
    Gives (d.add statement) fun d => d.root.Fits := by
  cases statement with
  | assign path key v =>
    exact gives_bind (inside_fits (fun _ => assign_fits h path) _ hd) fun _ hroot => gives_some hroot
  | header path key =>
    exact gives_bind (inside_fits (fun _ => openTable_fits) _ hd) fun _ hroot => gives_some hroot
  | nextHeader path key =>
    exact gives_bind (inside_fits (fun _ => openNext_fits) _ hd) fun _ hroot => gives_some hroot

theorem Value.ofText?_fits (text : String) : Gives (Value.ofText? text) Value.Fits := by
  refine gives_bind (gives_true _) fun s _ => ?_
  refine gives_bind (readStatements_fits _ s) fun statements hstatements => ?_
  have hdraft : Gives (statements.foldlM Draft.add ⟨[], []⟩) fun d => d.root.Fits :=
    gives_foldlM members_nil_fits fun statement hmem d hd => add_fits hd (hstatements statement hmem)
  exact gives_bind hdraft fun d hd => gives_some (.table (valuesOf_fits d.root hd))

/-! ## Fields -/

theorem readField_gives {α : Type} {P : α → Prop} {v : Value} {name : String} {place : Nat}
    {read : Value → Option α} {standing : α} (hv : v.Fits) (hread : ∀ w, w.Fits → Gives (read w) P)
    (hstanding : P standing) : Gives (v.readField name place read standing) P := by
  have hfield : Gives (v.field? name place) fun w? => Gives w? Value.Fits := by
    unfold Value.field?
    split
    · cases hv with
      | table h =>
        refine gives_some (gives_map (P := fun p => p.2.Fits) (fun p hp => ?_) fun _ hp => hp)
        exact h p (List.mem_of_find?_eq_some hp)
    · cases hv with
      | list h => exact gives_some fun w hw => h w (List.mem_of_getElem? hw)
    · exact gives_some gives_none
    · exact gives_none
  refine gives_bind hfield fun w? hw => ?_
  cases w? with
  | none => exact gives_some hstanding
  | some w => exact hread w (hw w rfl)

theorem asNatural?_lt {v : Value} (hv : v.Fits) : Gives v.asNatural? fun n => n < Nat.pow 2 63 := by
  cases hv with
  | integer h => exact gives_ite (fun _ => gives_some (by omega)) fun _ => gives_none
  | _ => exact gives_none

theorem readNatural_lt {v : Value} {name : String} {place standing : Nat} (hv : v.Fits)
    (hstanding : standing < Nat.pow 2 63) :
    Gives (v.readField name place Value.asNatural? standing) fun n => n < Nat.pow 2 63 :=
  readField_gives hv (fun _ => asNatural?_lt) hstanding

end PageEdit.Toml
