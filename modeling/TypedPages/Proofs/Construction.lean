import TypedPages.Proofs.Schema

/-!
# Which columns make a schema

Columns are taken one after the other. Each has to state the position behind those before it, and
then to have a name that none of them has; the first one that does not is what is reported. Whatever
was taken can be had again by position and by name, and an index that was built along the way gives
the same answers as a search through the columns.
-/

namespace TypedPages

namespace Schema

variable {s t : Schema} {c : Column} {columns later : List Column} {name : String}
variable {e : SchemaError} {failure : Error}

/-- Every column states its own position, and no two columns have the same name. -/
structure WellPlaced (columns : List Column) : Prop where
  placed : ∀ (i : Nat) (c : Column), columns[i]? = some c → c.index = i
  distinct : (columns.map Column.name).Nodup

/-- What is wrong with the column at a position: it states another one, or it states the right one
and has the name of a column before it. -/
inductive Offends (columns : List Column) (position : Nat) : SchemaError → Prop where
  | misplaced {c : Column} (found : columns[position]? = some c) (elsewhere : c.index ≠ position) :
      Offends columns position (.misplaced c.name c.index position)
  | repeated {c d : Column} {earlier : Nat} (found : columns[position]? = some c)
      (placed : c.index = position) (before : earlier < position)
      (other : columns[earlier]? = some d) (same : d.name = c.name) :
      Offends columns position (.repeated c.name)

/-- What is wrong with the first column with which anything is wrong. -/
def FirstOffence (columns : List Column) (e : SchemaError) : Prop :=
  ∃ position, Offends columns position e ∧
    ∀ earlier < position, ∀ other, ¬ Offends columns earlier other

/-- A position has one fault: names are looked at only where the position is right. -/
theorem Offends.unique {position : Nat} {e e' : SchemaError} (h : Offends columns position e)
    (h' : Offends columns position e') : e = e' := by
  cases h with
  | misplaced found elsewhere =>
      cases h' with
      | misplaced found' _ =>
          rw [found] at found'
          cases found'
          rfl
      | repeated found' placed _ _ _ =>
          rw [found] at found'
          cases found'
          exact absurd placed elsewhere
  | repeated found placed _ _ _ =>
      cases h' with
      | misplaced found' elsewhere =>
          rw [found] at found'
          cases found'
          exact absurd placed elsewhere
      | repeated found' _ _ _ _ =>
          rw [found] at found'
          cases found'
          rfl

theorem FirstOffence.unique {e e' : SchemaError} (h : FirstOffence columns e)
    (h' : FirstOffence columns e') : e = e' := by
  obtain ⟨i, own, first⟩ := h
  obtain ⟨j, own', first'⟩ := h'
  rcases Nat.lt_trichotomy i j with before | rfl | behind
  · exact absurd own (first' i before e)
  · exact own.unique own'
  · exact absurd own' (first j behind e')

/-! ## The columns of a schema -/

@[simp] theorem map_name_columns (s : Schema) : s.columns.map Column.name = s.names := by
  rw [names, ← map_field_columns, List.map_map]
  rfl

theorem index_of_getElem? {i : Nat} (h : s.columns[i]? = some c) : c.index = i := by
  rw [getElem?_columns] at h
  obtain ⟨f, -, rfl⟩ := Option.map_eq_some_iff.mp h
  rfl

theorem wellPlaced_columns (s : Schema) : WellPlaced s.columns := by
  refine ⟨fun i c found => index_of_getElem? found, ?_⟩
  rw [map_name_columns]
  exact s.nodup

/-- Columns in their places are those of a schema. -/
theorem exists_columns_iff : (∃ s : Schema, s.columns = columns) ↔ WellPlaced columns := by
  constructor
  · rintro ⟨s, rfl⟩
    exact s.wellPlaced_columns
  · intro h
    have distinct : ((columns.map Column.field).map Field.name).Nodup := by
      rw [List.map_map]
      exact h.distinct
    refine ⟨⟨columns.map Column.field, distinct⟩, ?_⟩
    apply List.ext_getElem?
    intro i
    rw [getElem?_columns, List.getElem?_map]
    cases found : columns[i]? with
    | none => rfl
    | some c =>
        have own : Column.ofField c.field i = c := by
          rw [← h.placed i c found]
          rfl
        exact congrArg some own

/-- With the columns of a schema nothing is wrong, whatever comes behind them. -/
theorem not_offends_of_lt {i : Nat} (inside : i < s.size) : ¬ Offends (s.columns ++ later) i e := by
  have front {j : Nat} (h : j < s.size) : (s.columns ++ later)[j]? = s.columns[j]? :=
    List.getElem?_append_left (by rwa [length_columns])
  intro offends
  cases offends with
  | misplaced found elsewhere =>
      rw [front inside] at found
      exact elsewhere (index_of_getElem? found)
  | repeated found placed before other same =>
      rw [front inside] at found
      rw [front (Nat.lt_trans before inside)] at other
      rw [getElem?_columns] at found other
      obtain ⟨f, hf, rfl⟩ := Option.map_eq_some_iff.mp found
      obtain ⟨g, hg, rfl⟩ := Option.map_eq_some_iff.mp other
      have positions := position_unique hg hf same
      omega

/-! ## One column more -/

section

variable [Host]

theorem columns_of_extend (h : s.extend c = .ok t) : t.columns = s.columns ++ [c] := by
  rw [extend] at h
  split at h
  · cases h
  · rename_i placed
    have own : Column.ofField c.field s.fields.length = c := by
      have index : c.index = s.fields.length := Decidable.not_not.mp placed
      rw [← index]
      rfl
    have fields := fields_of_append (mapError_eq_ok_iff.mp h)
    rw [columns, fields, List.zipIdx_append, List.map_append, Nat.zero_add]
    exact congrArg (s.columns ++ [·]) own

/-- A column is refused exactly for what is wrong with it behind the columns that are there. -/
theorem extend_eq_error_iff : s.extend c = .error failure ↔
    ∃ e, Offends (s.columns ++ c :: later) s.size e ∧ failure = (Error.schema e).raised := by
  have found : (s.columns ++ c :: later)[s.size]? = some c := by
    rw [← length_columns, List.getElem?_append_right (Nat.le_refl _), Nat.sub_self]
    rfl
  -- What is wrong with a column is one thing, so a refusal is for this or for nothing.
  have refused {e : SchemaError} (own : Offends (s.columns ++ c :: later) s.size e) :
      (Except.error (Error.schema e).raised : Except Error Schema) = .error failure ↔
        ∃ e, Offends (s.columns ++ c :: later) s.size e ∧ failure = (Error.schema e).raised := by
    constructor
    · rintro ⟨⟩
      exact ⟨e, own, rfl⟩
    · rintro ⟨e', offends, rfl⟩
      rw [offends.unique own]
  rw [extend]
  by_cases elsewhere : c.index ≠ s.size
  · rw [if_pos elsewhere]
    exact refused (.misplaced found elsewhere)
  · rw [if_neg elsewhere, append]
    have placed : c.index = s.size := Decidable.not_not.mp elsewhere
    by_cases known : c.field.name ∈ s.names
    · rw [dif_pos known]
      obtain ⟨i, f, hf, same⟩ := mem_names_iff.mp known
      have inside := lt_size hf
      have other : (s.columns ++ c :: later)[i]? = some (.ofField f i) := by
        rw [List.getElem?_append_left (by rwa [length_columns]), getElem?_columns, hf]
        rfl
      exact refused (.repeated found placed inside other same)
    · rw [dif_neg known]
      refine iff_of_false ?_ ?_
      · intro extended
        cases extended
      · rintro ⟨e, offends, -⟩
        cases offends with
        | misplaced found' elsewhere' =>
            rw [found] at found'
            cases found'
            exact elsewhere elsewhere'
        | repeated found' _ before other same =>
            rw [found] at found'
            cases found'
            rw [List.getElem?_append_left (by rwa [length_columns]), getElem?_columns] at other
            obtain ⟨f, hf, rfl⟩ := Option.map_eq_some_iff.mp other
            exact known (mem_names_iff.mpr ⟨_, f, hf, same⟩)

/-! ## All columns -/

theorem columns_of_foldlM_extend (h : columns.foldlM extend s = .ok t) :
    t.columns = s.columns ++ columns := by
  induction columns generalizing s with
  | nil =>
      cases h
      exact (List.append_nil t.columns).symm
  | cons c columns ih =>
      rw [List.foldlM_cons, bind_eq_ok_iff] at h
      obtain ⟨next, extended, rest⟩ := h
      rw [ih rest, columns_of_extend extended, List.append_assoc]
      rfl

/-- Columns in the places behind the last one extend a schema as their fields do. -/
theorem foldlM_extend_placed (s : Schema) (fields : List Field) :
    ((fields.zipIdx s.size).map fun (f, i) => Column.ofField f i).foldlM extend s =
      (fields.foldlM append s).mapError .schema := by
  induction fields generalizing s with
  | nil => rfl
  | cons f fields ih =>
      have step : s.extend (.ofField f s.size) = (s.append f).mapError .schema :=
        if_neg (not_not_intro rfl)
      rw [List.zipIdx_cons, List.map_cons, List.foldlM_cons, List.foldlM_cons, step]
      cases appended : s.append f with
      | error e => rfl
      | ok t =>
          have size : t.size = s.size + 1 := by
            rw [Schema.size, fields_of_append appended, List.length_append]
            rfl
          rw [← size]
          exact ih t

/-- Fields make a schema as they do when they are placed beforehand. -/
theorem ofColumns_placed (fields : List Field) :
    ofColumns (fields.zipIdx.map fun (f, i) => .ofField f i) =
      (ofFields fields).mapError .schema :=
  foldlM_extend_placed empty fields

theorem ofColumns_eq_ok_iff : ofColumns columns = .ok s ↔ s.columns = columns := by
  constructor
  · intro built
    exact columns_of_foldlM_extend (s := empty) built
  · rintro rfl
    rw [columns, ofColumns_placed, ofFields_of_nodup s.nodup]
    rfl

/-- What keeps columns from being a schema is what is wrong with the first of them. -/
theorem ofColumns_eq_error_iff : ofColumns columns = .error failure ↔
    ∃ e, FirstOffence columns e ∧ failure = (Error.schema e).raised := by
  have reported {failure : Error} (failed : ofColumns columns = .error failure) :
      ∃ e, FirstOffence columns e ∧ failure = (Error.schema e).raised := by
    obtain ⟨before, c, after, t, rfl, built, refused⟩ := foldlM_eq_error_iff.mp failed
    obtain rfl := columns_of_foldlM_extend (s := empty) built
    obtain ⟨e, offends, raised⟩ := extend_eq_error_iff.mp refused
    exact ⟨e, ⟨t.size, offends, fun earlier inside other => not_offends_of_lt inside⟩, raised⟩
  constructor
  · exact reported
  · rintro ⟨e, first, rfl⟩
    cases built : ofColumns columns with
    | error failure =>
        obtain ⟨e', first', rfl⟩ := reported built
        rw [first'.unique first]
    | ok s =>
        obtain rfl := ofColumns_eq_ok_iff.mp built
        obtain ⟨position, offends, -⟩ := first
        have inside : position < s.size := by
          cases offends with
          | misplaced found _ => simpa using (List.getElem?_eq_some_iff.mp found).1
          | repeated found _ _ _ _ => simpa using (List.getElem?_eq_some_iff.mp found).1
        rw [← List.append_nil s.columns] at offends
        exact absurd offends (not_offends_of_lt inside)

/-- It is reported as an error of the schema if the message can show what the column states. -/
theorem ofColumns_eq_schemaError_iff : ofColumns columns = .error (.schema e) ↔
    FirstOffence columns e ∧
      ∀ name index position, e = .misplaced name index position → Host.obstacle? index = none := by
  have shown : (Error.schema e).obstacle? = none ↔
      ∀ name index position, e = .misplaced name index position → Host.obstacle? index = none := by
    cases e <;> simp [Error.obstacle?]
  rw [ofColumns_eq_error_iff, ← shown]
  constructor
  · rintro ⟨e', first, raised⟩
    obtain ⟨rfl, written⟩ := Error.raised_eq_schema_iff.mp raised.symm
    exact ⟨first, written⟩
  · rintro ⟨first, written⟩
    exact ⟨e, first, (Error.raised_of_writable written).symm⟩

end

/-! ## Columns by name -/

theorem find_eq_ok_iff_mem : s.find name = .ok c ↔ c ∈ s.columns ∧ c.name = name := by
  rw [find_eq_ok_iff, mem_columns_iff]
  constructor
  · rintro ⟨i, f, hf, named, rfl⟩
    exact ⟨⟨i, f, hf, rfl⟩, named⟩
  · rintro ⟨⟨i, f, hf, rfl⟩, named⟩
    exact ⟨i, f, hf, named, rfl⟩

theorem has_iff_mem_columns : s.has name = true ↔ ∃ c ∈ s.columns, c.name = name := by
  rw [has_iff, ← map_name_columns, List.mem_map]

theorem find_eq_error_iff : s.find name = .error e ↔ s.has name = false ∧ e = .missing name := by
  rw [← Bool.not_eq_true, has_iff_mem_columns]
  cases found : s.find name with
  | ok c =>
      have known := find_eq_ok_iff_mem.mp found
      exact iff_of_false nofun fun absent => absent.1 ⟨c, known⟩
  | error e' =>
      have absent : ¬ ∃ c ∈ s.columns, c.name = name := by
        rintro ⟨c, known⟩
        rw [find_eq_ok_iff_mem.mpr known] at found
        cases found
      have missing : e' = .missing name := by
        rw [find] at found
        split at found <;> cases found
        rfl
      rw [missing]
      constructor
      · rintro ⟨⟩
        exact ⟨absent, rfl⟩
      · rintro ⟨-, rfl⟩
        rfl

/-- The columns that were taken, each under its name, the last one first. -/
abbrev NameIndex := List (String × Column)

namespace NameIndex

/-- Enters a column behind those that are there, after the two checks that make a schema. -/
def enter [Host] (index : NameIndex) (c : Column) : Except Error NameIndex :=
  if c.index ≠ index.length then
    .error (Error.schema (.misplaced c.name c.index index.length)).raised
  else if (index.lookup c.name).isSome then .error (.schema (.repeated c.name))
  else .ok ((c.name, c) :: index)

/-- The index of columns that are entered one after the other. -/
def ofColumns [Host] (columns : List Column) : Except Error NameIndex :=
  columns.foldlM enter []

/-- The index has the columns of the schema, each under its name. -/
structure Lists (index : NameIndex) (s : Schema) : Prop where
  length : index.length = s.size
  lookup : ∀ name c, index.lookup name = some c ↔ c ∈ s.columns ∧ c.name = name

variable {index : NameIndex}

theorem lists_nil : Lists [] empty := by
  refine ⟨rfl, ?_⟩
  intro name c
  exact iff_of_false nofun nofun

theorem Lists.isSome_lookup_iff (h : index.Lists s) :
    (index.lookup name).isSome = true ↔ name ∈ s.names := by
  rw [Option.isSome_iff_exists, ← has_iff, has_iff_mem_columns]
  exact exists_congr fun c => h.lookup name c

theorem Lists.lookup_eq (h : index.Lists s) (name : String) :
    index.lookup name = (s.find name).toOption := by
  apply Option.ext
  intro c
  rw [h.lookup, ← find_eq_ok_iff_mem]
  cases s.find name <;> simp [Except.toOption]

/-- A column under a new name is found there, and nothing else is found otherwise than before. -/
theorem Lists.cons (h : index.Lists s) (extended : t.columns = s.columns ++ [c])
    (fresh : c.name ∉ s.names) : Lists ((c.name, c) :: index) t := by
  constructor
  · rw [← length_columns, extended, List.length_append, length_columns, ← h.length]
    rfl
  · intro name d
    rw [List.lookup_cons, extended, List.mem_append, List.mem_singleton]
    by_cases own : name = c.name
    · subst own
      simp only [beq_self_eq_true, Option.some.injEq]
      constructor
      · rintro rfl
        exact ⟨.inr rfl, rfl⟩
      · rintro ⟨early | rfl, same⟩
        · exact absurd (has_iff.mp (has_iff_mem_columns.mpr ⟨d, early, same⟩)) fresh
        · rfl
    · rw [beq_eq_false_iff_ne.mpr own]
      simp only [h.lookup]
      constructor
      · rintro ⟨early, named⟩
        exact ⟨.inl early, named⟩
      · rintro ⟨early | rfl, named⟩
        · exact ⟨early, named⟩
        · exact absurd named.symm own

section

variable [Host]

/-- A column is entered exactly if it extends the schema, and else refused for the same reason. -/
theorem Lists.enter (h : index.Lists s) (c : Column) :
    (∃ e, s.extend c = .error e ∧ index.enter c = .error e) ∨
      ∃ t next, s.extend c = .ok t ∧ index.enter c = .ok next ∧ next.Lists t := by
  rw [NameIndex.enter, h.length]
  by_cases elsewhere : c.index ≠ s.size
  · rw [extend, if_pos elsewhere, if_pos elsewhere]
    exact .inl ⟨_, rfl, rfl⟩
  · have placed : s.extend c = (s.append c.field).mapError .schema := if_neg elsewhere
    rw [if_neg elsewhere]
    by_cases known : c.name ∈ s.names
    · have refused : s.append c.field = .error (.repeated c.name) := dif_pos known
      rw [placed, refused, if_pos (h.isSome_lookup_iff.mpr known)]
      exact .inl ⟨_, rfl, rfl⟩
    · obtain ⟨t, appended⟩ : ∃ t, s.append c.field = .ok t := ⟨_, dif_neg known⟩
      have extended : s.extend c = .ok t := by rw [placed, appended]; rfl
      rw [extended, if_neg (fun found => known (h.isSome_lookup_iff.mp found))]
      exact .inr ⟨t, _, rfl, rfl, h.cons (columns_of_extend extended) known⟩

/-- Entering columns fails exactly if they do not extend the schema, and else the index has them. -/
theorem Lists.foldlM_enter (h : index.Lists s) (columns : List Column) :
    (∃ e, columns.foldlM extend s = .error e ∧ columns.foldlM NameIndex.enter index = .error e) ∨
      ∃ t next, columns.foldlM extend s = .ok t ∧
        columns.foldlM NameIndex.enter index = .ok next ∧ next.Lists t := by
  induction columns generalizing s index with
  | nil => exact .inr ⟨s, index, rfl, rfl, h⟩
  | cons c columns ih =>
      rw [List.foldlM_cons, List.foldlM_cons]
      rcases h.enter c with ⟨e, refused, refused'⟩ | ⟨t, next, extended, entered, lists⟩
      · rw [refused, refused']
        exact .inl ⟨e, rfl, rfl⟩
      · rw [extended, entered]
        exact ih lists

end

end NameIndex

/-- Columns make a schema exactly if each states its own position and no two have the same name.
Otherwise the first column is reported with which anything is wrong: the position that it states, or
if this is right its name. The report is an error of the schema, unless it would have to show a
position that the host cannot write. The schema has the columns as they are. By the name of a column
this very column is found, and it is also found at its position; every other name is reported. The
index that is built with the schema gives the same answers. Fields make a schema exactly if their
names are distinct. -/
theorem ofColumns_accepts_wellPlaced [Host] (columns : List Column) :
    ((∃ s, ofColumns columns = .ok s) ↔ WellPlaced columns) ∧
    (∀ failure, ofColumns columns = .error failure ↔
      ∃ e, FirstOffence columns e ∧ failure = (Error.schema e).raised) ∧
    (∀ e, ofColumns columns = .error (.schema e) ↔ FirstOffence columns e ∧
      ∀ name index position, e = .misplaced name index position → Host.obstacle? index = none) ∧
    (∀ s, ofColumns columns = .ok s → s.columns = columns ∧
      (∃ index, NameIndex.ofColumns columns = .ok index ∧
        ∀ name, index.lookup name = (s.find name).toOption) ∧
      ∀ name, (s.has name = true ↔ ∃ c ∈ columns, c.name = name) ∧
        (∀ c, s.find name = .ok c ↔ c ∈ columns ∧ c.name = name) ∧
        (∀ c, s.find name = .ok c → s.columnAt? c.index = some c) ∧
        ∀ e, s.find name = .error e ↔ s.has name = false ∧ e = .missing name) ∧
    (∀ e, ofColumns columns = .error e → NameIndex.ofColumns columns = .error e) ∧
    ∀ fields, (∃ s, ofFields fields = .ok s) ↔ (fields.map Field.name).Nodup := by
  have index := NameIndex.lists_nil.foldlM_enter columns
  refine ⟨?_, fun failure => ofColumns_eq_error_iff, fun e => ofColumns_eq_schemaError_iff, ?_, ?_,
    ?_⟩
  · rw [← exists_columns_iff]
    exact exists_congr fun s => ofColumns_eq_ok_iff
  · intro s built
    refine ⟨ofColumns_eq_ok_iff.mp built, ?_, ?_⟩
    · rcases index with ⟨e, refused, -⟩ | ⟨t, next, built', entered, lists⟩
      · cases built.symm.trans refused
      · cases built.symm.trans built'
        exact ⟨next, entered, lists.lookup_eq⟩
    · obtain rfl := ofColumns_eq_ok_iff.mp built
      intro name
      refine ⟨has_iff_mem_columns, fun c => find_eq_ok_iff_mem, ?_, fun e => find_eq_error_iff⟩
      intro c found
      obtain ⟨i, f, hf, -, rfl⟩ := find_eq_ok_iff.mp found
      exact columnAt?_of_field hf
  · intro e failed
    rcases index with ⟨e', refused, refused'⟩ | ⟨t, next, built, -, -⟩
    · cases failed.symm.trans refused
      exact refused'
    · cases failed.symm.trans built
  · intro fields
    constructor
    · rintro ⟨s, built⟩
      rw [← ofFields_eq_ok_iff.mp built]
      exact s.nodup
    · intro distinct
      exact ⟨_, ofFields_of_nodup distinct⟩

/-- Not everything that is no schema is reported as such: no error can show the position that the
only column states. -/
theorem not_reported : ¬ ∀ columns : List Column, ¬ WellPlaced columns →
    ∃ e, FirstOffence columns e ∧ ofColumns columns = .error (.schema e) := by
  intro reported
  let far : Column := ⟨"a", Host.tooLong, .long⟩
  have elsewhere : far.index ≠ (0 : Nat) := by
    intro placed
    have writable : Host.obstacle? far.index = none := by
      rw [placed]
      rfl
    rw [Host.obstacle?_tooLong] at writable
    cases writable
  have stray : ¬ WellPlaced [far] := fun placed => elsewhere (placed.placed 0 far rfl)
  obtain ⟨e, ⟨position, offends, -⟩, failed⟩ := reported [far] stray
  have first : FirstOffence [far] (.misplaced far.name far.index 0) :=
    ⟨0, .misplaced rfl elsewhere, fun earlier before => absurd before (Nat.not_lt_zero _)⟩
  obtain ⟨own, written⟩ := ofColumns_eq_schemaError_iff.mp failed
  have shown := written _ _ _ (own.unique first)
  rw [Host.obstacle?_tooLong] at shown
  cases shown

namespace Sample

/-- Two columns in their places. -/
def placed : List Column := [⟨"id", 0, .long⟩, ⟨"name", 1, .string⟩]

/-- A column behind them that has a name of theirs, and one that states a wrong position. -/
def strayed : List Column := placed ++ [⟨"id", 2, .json⟩, ⟨"note", 7, .string⟩]

end Sample

/-- The second column is found by its name and at its position. With the columns behind it there is
no schema, and the name that is repeated is reported, not the wrong position behind it. -/
theorem sample_accepts_wellPlaced :
    (∃ s, ofColumns Sample.placed = .ok s ∧ s.find "name" = .ok ⟨"name", 1, .string⟩ ∧
      s.columnAt? 1 = some ⟨"name", 1, .string⟩) ∧
    ofColumns Sample.strayed = .error (.schema (.repeated "id")) := by
  obtain ⟨-, -, -, accepted, -⟩ := ofColumns_accepts_wellPlaced Sample.placed
  obtain ⟨-, -, reported, -⟩ := ofColumns_accepts_wellPlaced Sample.strayed
  obtain ⟨s, built⟩ : ∃ s, ofColumns Sample.placed = .ok s := ⟨_, rfl⟩
  obtain ⟨columns, -, named⟩ := accepted s built
  constructor
  · obtain ⟨-, finds, stands, -⟩ := named "name"
    have found := (finds ⟨"name", 1, .string⟩).mpr ⟨by simp [Sample.placed], rfl⟩
    exact ⟨s, built, found, stands _ found⟩
  · apply (reported _).mpr
    have before : 0 < 2 := by omega
    have offends : Offends Sample.strayed 2 (.repeated "id") :=
      .repeated (c := ⟨"id", 2, .json⟩) (d := ⟨"id", 0, .long⟩) rfl rfl before rfl rfl
    refine ⟨⟨2, offends, ?_⟩, nofun⟩
    intro earlier before other
    rw [Sample.strayed, ← columns]
    apply not_offends_of_lt
    simpa [← length_columns, columns, Sample.placed] using before

end Schema

end TypedPages
