import MailIndex.Json
import MailIndex.Proofs.List
import MailIndex.Proofs.RowFilter

namespace MailIndex

namespace Json

variable {α : Type} {j content : Json} {name : String} {items values : List Json}
  {fields : List (String × Json)}

inductive Reordered : Json → Json → Prop
  | null : Reordered null null
  | bool (b : Bool) : Reordered (bool b) (bool b)
  | int (n : Int) : Reordered (int n) (int n)
  | fraction : Reordered fraction fraction
  | str (s : String) : Reordered (str s) (str s)
  | arr {items items' : List Json} : List.Forall₂ Reordered items items' →
      Reordered (arr items) (arr items')
  | obj {fields fields' : List (String × Json)} {values : List Json} :
      List.Forall₂ Reordered (fields.map Prod.snd) values →
      ((fields.map Prod.fst).zip values).Perm fields' → Reordered (obj fields) (obj fields')

/-- Whether all that is written is read back, in whatever order the fields of objects stand. -/
def ReadsBack (write : α → Json) (read : Json → Option α) : Prop :=
  ∀ a j, (write a).Reordered j → read j = some a

theorem Reordered.refl (j : Json) : Reordered j j := by
  cases j with
  | null => exact .null
  | bool b => exact .bool b
  | int n => exact .int n
  | fraction => exact .fraction
  | str s => exact .str s
  | arr items => exact .arr (List.forall₂_same.2 fun item _ => Reordered.refl item)
  | obj fields =>
    have hvalues : List.Forall₂ Reordered (fields.map Prod.snd) (fields.map Prod.snd) := by
      refine List.forall₂_same.2 fun value hvalue => ?_
      obtain ⟨⟨name, value⟩, he, rfl⟩ := List.mem_map.1 hvalue
      have hsize := List.sizeOf_lt_of_mem he
      exact Reordered.refl value
    refine .obj hvalues (List.Perm.of_eq ?_)
    rw [List.zip_map', List.map_id']
termination_by sizeOf j
decreasing_by
  · simp_wf
    have := List.sizeOf_lt_of_mem ‹_›
    omega
  · simp_all
    omega

section Records

theorem field?_eq_some_of_mem (hnodup : (fields.map Prod.fst).Nodup)
    (hmem : (name, content) ∈ fields) : field? name fields = some content := by
  induction fields with
  | nil => cases hmem
  | cons e fields ih =>
    rw [List.map_cons, List.nodup_cons] at hnodup
    rcases List.mem_cons.1 hmem with rfl | hmem
    · rw [field?, List.find?_cons_of_pos (by simp)]
      rfl
    · have hname : e.1 ≠ name := fun h => hnodup.1 (h ▸ List.mem_map_of_mem hmem)
      rw [field?, List.find?_cons_of_neg (by simpa using hname)]
      exact ih hnodup.2 hmem

theorem record_eq_some_of_field? {names : List (String × Bool)}
    (hlength : names.length = values.length)
    (h : ∀ e ∈ (names.map Prod.fst).zip values, field? e.1 fields = some e.2) :
    (obj fields).record names = some values := by
  rw [record]
  induction names generalizing values with
  | nil =>
    obtain rfl := List.length_eq_zero_iff.1 hlength.symm
    rfl
  | cons n names ih =>
    cases values with
    | nil => cases hlength
    | cons value values =>
      rw [List.map_cons, List.zip_cons_cons, List.forall_mem_cons] at h
      rw [List.mapM_cons, ih (Nat.succ.inj hlength) h.2]
      simp only [h.1]
      rfl

theorem Reordered.keys_perm {fields' : List (String × Json)}
    (h : (Json.obj fields).Reordered (Json.obj fields')) :
    (fields'.map Prod.fst).Perm (fields.map Prod.fst) := by
  cases h with
  | obj hvalues hperm =>
    have hlength := hvalues.length_eq
    rw [List.length_map, ← List.length_map Prod.fst] at hlength
    have hkeys := (hperm.map Prod.fst).symm
    rwa [List.map_fst_zip hlength.le] at hkeys

theorem record_of_reordered (names : List (String × Bool)) (h : (obj fields).Reordered j)
    (hnames : names.map Prod.fst = fields.map Prod.fst) (hnodup : (names.map Prod.fst).Nodup) :
    ∃ values, List.Forall₂ Reordered (fields.map Prod.snd) values ∧
      j.record names = some values := by
  cases h with
  | @obj _ fields' values hvalues hperm =>
    rw [hnames] at hnodup
    have hkeys := (Reordered.obj hvalues hperm).keys_perm.nodup_iff.2 hnodup
    have hlength : names.length = values.length := by
      rw [← List.length_map Prod.fst, hnames, ← hvalues.length_eq, List.length_map,
        List.length_map]
    refine ⟨values, hvalues, record_eq_some_of_field? hlength fun e he => ?_⟩
    rw [hnames] at he
    exact field?_eq_some_of_mem hkeys (hperm.mem_iff.1 he)

theorem fullRecord_of_reordered (names : List String) (h : (obj fields).Reordered j)
    (hnames : fields.map Prod.fst = names) (hnodup : names.Nodup) :
    ∃ values, List.Forall₂ Reordered (fields.map Prod.snd) values ∧
      j.fullRecord names = some values := by
  have hfst : (names.map fun name => (name, false)).map Prod.fst = names := by
    rw [List.map_map]
    exact List.map_id names
  exact record_of_reordered _ h (by rw [hfst, hnames]) (by rwa [hfst])

theorem tagged_reordered_iff :
    (tagged name content).Reordered j ↔
      ∃ content', j = tagged name content' ∧ content.Reordered content' := by
  constructor
  · intro h
    rw [tagged] at h
    cases h with
    | obj hvalues hperm =>
      cases hvalues with
      | cons hvalue hrest =>
        cases hrest
        obtain rfl := List.singleton_perm.1 hperm
        exact ⟨_, rfl, hvalue⟩
  · rintro ⟨content', rfl, h⟩
    exact .obj (.cons h .nil) (.refl _)

theorem Reordered.swap (e e' : String × Json) :
    (Json.obj [e, e']).Reordered (Json.obj [e', e]) :=
  .obj (.cons (.refl _) (.cons (.refl _) .nil)) (.swap _ _ _)

end Records

section Values

variable {write : α → Json} {read : Json → Option α}

theorem eq_str_of_reordered {s : String} (h : (str s).Reordered j) : j = str s := by
  cases h
  rfl

theorem eq_int_of_reordered {n : Int} (h : (int n).Reordered j) : j = int n := by
  cases h
  rfl

theorem readsBack_str : ReadsBack str string? := by
  intro s j h
  rw [eq_str_of_reordered h]
  rfl

theorem readsBack_bool : ReadsBack bool bool? := by
  rintro b j ⟨⟩
  rfl

theorem ReadsBack.list (h : ReadsBack write read) :
    ReadsBack (fun l => arr (l.map write)) (list? read) := by
  intro l j hl
  cases hl with
  | @arr _ items hitems =>
    rw [list?]
    induction l generalizing items with
    | nil =>
      cases hitems
      rfl
    | cons a l ih =>
      cases hitems with
      | cons hitem hrest =>
        rw [List.mapM_cons, h _ _ hitem, ih hrest]
        rfl

theorem nat?_int {n bound : Nat} (h : n < bound) : nat? bound (int n) = some n := by
  rw [nat?, if_pos ⟨Int.natCast_nonneg n, Int.ofNat_lt.2 h⟩, Int.toNat_natCast]

theorem readsBack_word : ReadsBack ofWord word? := by
  intro n j h
  rw [eq_int_of_reordered h, word?, nat?_int n.toNat_lt, Option.map_some, UInt64.ofNat_toNat]

theorem readsBack_optionalWord : ReadsBack ofOptionalWord optionalWord? := by
  intro n j h
  cases n with
  | none =>
    cases h
    rfl
  | some n =>
    have hread := readsBack_word n j h
    rw [eq_int_of_reordered h] at hread ⊢
    rw [optionalWord?, hread]
    · rfl
    · nofun

theorem readsBack_millis : ReadsBack ofMillis millis? := by
  intro t j h
  rw [eq_int_of_reordered h, millis?, Millis.ofInt?, if_pos ⟨t.le_toInt, t.toInt_lt⟩,
    Int64.ofInt_toInt]

theorem readsBack_bytes : ReadsBack ofBytes bytes? := by
  refine ReadsBack.list fun b j h => ?_
  rw [eq_int_of_reordered h, nat?_int b.toNat_lt, Option.map_some, UInt8.ofNat_toNat]

theorem readsBack_names {all : List α} {name : α → String}
    (h : ∀ a, all.find? (fun b => name b = name a) = some a) :
    ReadsBack (fun a => str (name a)) (ofNames all name) := by
  intro a j ha
  rw [eq_str_of_reordered ha]
  exact h a

end Values

end Json

open Json

theorem SystemFlag.readsBack : Json.ReadsBack toJson ofJson? :=
  readsBack_names (by rintro (_ | _) <;> rfl)

theorem Flag.readsBack : Json.ReadsBack toJson ofJson? := by
  intro x j h
  cases x with
  | system f =>
    obtain ⟨content, rfl, hcontent⟩ := tagged_reordered_iff.1 h
    rw [tagged, ofJson?, SystemFlag.readsBack f content hcontent]
    rfl
  | keyword k =>
    obtain ⟨content, rfl, hcontent⟩ := tagged_reordered_iff.1 h
    rw [tagged, ofJson?, readsBack_str k content hcontent]
    rfl

theorem TextScope.readsBack : Json.ReadsBack toJson ofJson? :=
  readsBack_names (by rintro (_ | _) <;> rfl)

theorem DateOp.readsBack : Json.ReadsBack toJson ofJson? :=
  readsBack_names (by rintro (_ | _) <;> rfl)

theorem Resolution.readsBack : Json.ReadsBack toJson ofJson? :=
  readsBack_names (by rintro (_ | _) <;> rfl)

theorem IdRange.readsBack : Json.ReadsBack toJson ofJson? := by
  intro r j h
  obtain ⟨_, _ | ⟨hfirst, _ | ⟨hlast, ⟨⟩⟩⟩, hrecord⟩ :=
    fullRecord_of_reordered ["start", "end"] h rfl (by decide)
  have hfields : hasNoOtherFields j = true := by
    cases h with
    | obj hvalues hperm =>
      rw [hasNoOtherFields, List.all_eq_true]
      intro e he
      have hname := (Reordered.obj hvalues hperm).keys_perm.mem_iff.1 (List.mem_map_of_mem he)
      simpa using hname
  rw [ofJson?, hfields, hrecord]
  simp [readsBack_word _ _ hfirst, readsBack_word _ _ hlast]

theorem Criterion.exists_ofRecord? {kind : String} (h : (tagged kind content).Reordered j)
    (hkind : kind ∉ ["All", "Not"]) :
    ∃ content', content.Reordered content' ∧ ofJson? j = ofRecord? kind content' := by
  obtain ⟨content', rfl, hcontent⟩ := tagged_reordered_iff.1 h
  refine ⟨content', hcontent, ?_⟩
  rw [tagged, ofJson?]
  · rintro rfl
    exact absurd (by simp) hkind
  · rintro rfl
    exact absurd (by simp) hkind

theorem Criterion.readsBack : Json.ReadsBack toJson ofJson? := by
  intro c j h
  induction c generalizing j with
  | text value scope =>
    obtain ⟨content, hcontent, hread⟩ := exists_ofRecord? h (by decide)
    obtain ⟨_, _ | ⟨hvalue, _ | ⟨hscope, ⟨⟩⟩⟩, hrecord⟩ :=
      fullRecord_of_reordered ["value", "scope"] hcontent rfl (by decide)
    rw [hread, ofRecord?, hrecord]
    simp [readsBack_str _ _ hvalue, TextScope.readsBack _ _ hscope]
  | headerContains name value =>
    obtain ⟨content, hcontent, hread⟩ := exists_ofRecord? h (by decide)
    obtain ⟨_, _ | ⟨hname, _ | ⟨hvalue, ⟨⟩⟩⟩, hrecord⟩ :=
      fullRecord_of_reordered ["name", "value"] hcontent rfl (by decide)
    rw [hread, ofRecord?, hrecord]
    simp [readsBack_str _ _ hname, readsBack_str _ _ hvalue]
  | headerExists name =>
    obtain ⟨content, hcontent, hread⟩ := exists_ofRecord? h (by decide)
    obtain ⟨_, _ | ⟨hname, ⟨⟩⟩, hrecord⟩ :=
      fullRecord_of_reordered ["name"] hcontent rfl (by decide)
    rw [hread, ofRecord?, hrecord]
    simp [readsBack_str _ _ hname]
  | headerAddress name value =>
    obtain ⟨content, hcontent, hread⟩ := exists_ofRecord? h (by decide)
    obtain ⟨_, _ | ⟨hname, _ | ⟨hvalue, ⟨⟩⟩⟩, hrecord⟩ :=
      fullRecord_of_reordered ["name", "value"] hcontent rfl (by decide)
    rw [hread, ofRecord?, hrecord]
    simp [readsBack_str _ _ hname, readsBack_str _ _ hvalue]
  | flag f isSet =>
    obtain ⟨content, hcontent, hread⟩ := exists_ofRecord? h (by decide)
    obtain ⟨_, _ | ⟨hflag, _ | ⟨hisSet, ⟨⟩⟩⟩, hrecord⟩ :=
      fullRecord_of_reordered ["flag", "is_set"] hcontent rfl (by decide)
    rw [hread, ofRecord?, hrecord]
    simp [Flag.readsBack _ _ hflag, readsBack_bool _ _ hisSet]
  | internalDate op t r =>
    obtain ⟨content, hcontent, hread⟩ := exists_ofRecord? h (by decide)
    obtain ⟨_, _ | ⟨hop, _ | ⟨ht, _ | ⟨hr, ⟨⟩⟩⟩⟩, hrecord⟩ :=
      fullRecord_of_reordered ["op", "timestamp", "resolution"] hcontent rfl (by decide)
    rw [hread, ofRecord?, hrecord]
    simp [DateOp.readsBack _ _ hop, readsBack_millis _ _ ht, Resolution.readsBack _ _ hr]
  | all =>
    rw [eq_str_of_reordered h]
    rfl
  | size larger smaller =>
    obtain ⟨content, hcontent, hread⟩ := exists_ofRecord? h (by decide)
    obtain ⟨_, _ | ⟨hlarger, _ | ⟨hsmaller, ⟨⟩⟩⟩, hrecord⟩ :=
      record_of_reordered [("larger_than", true), ("smaller_than", true)] hcontent rfl (by decide)
    rw [hread, ofRecord?, hrecord]
    simp [readsBack_optionalWord _ _ hlarger, readsBack_optionalWord _ _ hsmaller]
  | uid ranges =>
    obtain ⟨content, hcontent, hread⟩ := exists_ofRecord? h (by decide)
    rw [hread, ofRecord?, IdRange.readsBack.list _ _ hcontent, Option.map_some]
  | modSeq n =>
    obtain ⟨content, hcontent, hread⟩ := exists_ofRecord? h (by decide)
    rw [hread, ofRecord?, readsBack_word _ _ hcontent, Option.map_some]
  | not c ih =>
    obtain ⟨content, rfl, hcontent⟩ := tagged_reordered_iff.1 h
    rw [tagged, ofJson?, ih _ hcontent, Option.map_some]

theorem Bound.readsBack : Json.ReadsBack toJson ofJson? := by
  intro b j h
  cases b with
  | unbounded =>
    rw [eq_str_of_reordered h]
    rfl
  | included bytes =>
    obtain ⟨content, rfl, hcontent⟩ := tagged_reordered_iff.1 h
    rw [tagged, ofJson?, readsBack_bytes _ _ hcontent, Option.map_some]
  | excluded bytes =>
    obtain ⟨content, rfl, hcontent⟩ := tagged_reordered_iff.1 h
    rw [tagged, ofJson?, readsBack_bytes _ _ hcontent, Option.map_some]

namespace Filter

theorem exists_ofContent? {kind : String} (h : (tagged kind content).Reordered j)
    (hkind : kind ∉ ["All", "And", "Or"]) :
    ∃ content', content.Reordered content' ∧ ofJson? j = ofContent? kind content' := by
  obtain ⟨content', rfl, hcontent⟩ := tagged_reordered_iff.1 h
  refine ⟨content', hcontent, ?_⟩
  rw [tagged, ofJson?]
  · rintro rfl
    exact absurd (by simp) hkind
  · rintro _ rfl
    exact absurd (by simp) hkind
  · rintro _ rfl
    exact absurd (by simp) hkind

theorem ofJson?_of_bytes {kind : String} {build : Bytes → RowFilter} {bytes : Bytes}
    (h : (tagged kind (ofBytes bytes)).Reordered j) (hkind : kind ∉ ["All", "And", "Or"])
    (hread : ∀ content, ofContent? kind content = content.bytes?.map build) :
    ofJson? j = some (build bytes) := by
  obtain ⟨content, hcontent, hj⟩ := exists_ofContent? h hkind
  rw [hj, hread, readsBack_bytes _ _ hcontent, Option.map_some]

theorem listToJson_eq_map (parts : List RowFilter) : listToJson parts = parts.map toJson := by
  induction parts with
  | nil => rw [listToJson, List.map_nil]
  | cons f parts ih => rw [listToJson, ih, List.map_cons]

theorem listOfJson?_of_forall₂ {parts : List RowFilter}
    (hparts : ∀ f ∈ parts, ∀ j, f.toJson.Reordered j → ofJson? j = some f)
    (h : List.Forall₂ Reordered (parts.map toJson) items) : listOfJson? items = some parts := by
  induction parts generalizing items with
  | nil =>
    cases h
    rw [listOfJson?]
  | cons f parts ih =>
    rw [List.forall_mem_cons] at hparts
    cases h with
    | cons hitem hrest =>
      rw [listOfJson?, hparts.1 _ hitem, ih hparts.2 hrest]
      rfl

theorem ofJson?_of_reordered (f : RowFilter) (h : f.toJson.Reordered j) : ofJson? j = some f := by
  -- by recursion on the filter: the parts of a conjunction or disjunction are smaller
  cases f with
  | all =>
    rw [toJson] at h
    rw [eq_str_of_reordered h, ofJson?]
  | rowEquals row =>
    rw [toJson] at h
    exact ofJson?_of_bytes h (by decide) fun _ => by rw [ofContent?]
  | rowStarts start =>
    rw [toJson] at h
    exact ofJson?_of_bytes h (by decide) fun _ => by rw [ofContent?]
  | rowWithin lower upper =>
    rw [toJson] at h
    obtain ⟨content, hcontent, hread⟩ := exists_ofContent? h (by decide)
    obtain ⟨_, _ | ⟨hlower, _ | ⟨hupper, ⟨⟩⟩⟩, hrecord⟩ :=
      fullRecord_of_reordered ["lower", "upper"] hcontent rfl (by decide)
    rw [hread, ofContent?, hrecord]
    simp [Bound.readsBack _ _ hlower, Bound.readsBack _ _ hupper]
  | rowMatches pattern =>
    rw [toJson] at h
    obtain ⟨content, hcontent, hread⟩ := exists_ofContent? h (by decide)
    rw [hread, ofContent?, readsBack_str _ _ hcontent, Option.map_some]
  | valueContains needle =>
    rw [toJson] at h
    exact ofJson?_of_bytes h (by decide) fun _ => by rw [ofContent?]
  | valueExcludes needle =>
    rw [toJson] at h
    exact ofJson?_of_bytes h (by decide) fun _ => by rw [ofContent?]
  | qualifierEquals q =>
    rw [toJson] at h
    exact ofJson?_of_bytes h (by decide) fun _ => by rw [ofContent?]
  | conj parts =>
    rw [toJson, listToJson_eq_map] at h
    obtain ⟨content, rfl, hcontent⟩ := tagged_reordered_iff.1 h
    cases hcontent with
    | arr hitems =>
      have hparts := listOfJson?_of_forall₂ (fun f _ _ hf => ofJson?_of_reordered f hf) hitems
      rw [tagged, ofJson?, hparts, Option.map_some]
  | disj parts =>
    rw [toJson, listToJson_eq_map] at h
    obtain ⟨content, rfl, hcontent⟩ := tagged_reordered_iff.1 h
    cases hcontent with
    | arr hitems =>
      have hparts := listOfJson?_of_forall₂ (fun f _ _ hf => ofJson?_of_reordered f hf) hitems
      rw [tagged, ofJson?, hparts, Option.map_some]
termination_by sizeOf f

theorem readsBack : ReadsBack toJson ofJson? := fun f _ => ofJson?_of_reordered f

end Filter

theorem Json.forms_read_back :
    (∀ f : RowFilter, Filter.ofJson? f.toJson = some f) ∧
    (∀ c : Criterion, Criterion.ofJson? c.toJson = some c) ∧
    (∀ (f : RowFilter) (j : Json), f.toJson.Reordered j → Filter.ofJson? j = some f) ∧
    (∀ (c : Criterion) (j : Json), c.toJson.Reordered j → Criterion.ofJson? j = some c) ∧
    ∀ (f g : RowFilter) (j : Json), f.toJson.Reordered j → Filter.ofJson? j = some g →
      ∀ row cell, g.Passes row cell ↔ f.Passes row cell := by
  refine ⟨fun f => Filter.readsBack f _ (.refl _), fun c => Criterion.readsBack c _ (.refl _),
    Filter.readsBack, Criterion.readsBack, fun f g j hj hg row cell => ?_⟩
  rw [Filter.readsBack f j hj] at hg
  obtain rfl := Option.some.inj hg
  rfl

theorem Json.forms_read_back_of_swapped_fields :
    let f : RowFilter := .conj [.rowWithin (.included [0]) .unbounded, .all]
    let c : Criterion := .not (.headerAddress "To" "x@y")
    let bounds := [("upper", str "Unbounded"), ("lower", tagged "Included" (arr [int 0]))]
    let j := tagged "And" (arr [tagged "RowRange" (obj bounds), str "All"])
    let k := tagged "Not" (tagged "HeaderAddress" (obj [("value", str "x@y"), ("name", str "To")]))
    f.toJson.Reordered j ∧ c.toJson.Reordered k ∧ Filter.ofJson? j = some f ∧
      Criterion.ofJson? k = some c ∧
      ∃ g, Filter.ofJson? j = some g ∧ ∀ row cell, g.Passes row cell ↔ f.Passes row cell := by
  intro f c bounds j k
  have hf : f.toJson.Reordered j :=
    tagged_reordered_iff.2 ⟨_, rfl, .arr (.cons (tagged_reordered_iff.2 ⟨_, rfl, .swap _ _⟩)
      (.cons (.str "All") .nil))⟩
  have hc : c.toJson.Reordered k :=
    tagged_reordered_iff.2 ⟨_, rfl, tagged_reordered_iff.2 ⟨_, rfl, .swap _ _⟩⟩
  obtain ⟨-, -, hfilter, hcriterion, hpasses⟩ := Json.forms_read_back
  have hread := hfilter f j hf
  exact ⟨hf, hc, hread, hcriterion c k hc, f, hread, hpasses f f j hf hread⟩

end MailIndex
