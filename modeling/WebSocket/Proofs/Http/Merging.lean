import Mathlib.Data.List.Nodup
import WebSocket.Http.Header

/-! # Headers added to others

Headers that are added come taken apart, and still each of their values goes to the name that it
had: adding them is adding their fields one after the other (`merge_eq_appendAll`). What headers
hold are the values of each name and the order of the names (`toList_eq`). The values that are added
stand behind those of the same name (`getAll_merge`), and names that are new stand behind all others
(`names_merge`).
-/

namespace WebSocket.Http.Headers

variable {headers : Headers} {name : HeaderName}

/-- Adds fields one after the other. -/
def appendAll (headers : Headers) (fields : List (HeaderName × HeaderValue)) : Headers :=
  fields.foldl (fun headers (name, value) => headers.append name value) headers

theorem appendAll_append (headers : Headers) (front back : List (HeaderName × HeaderValue)) :
    headers.appendAll (front ++ back) = (headers.appendAll front).appendAll back :=
  List.foldl_append

theorem ofList_concat (fields : List (HeaderName × HeaderValue))
    (field : HeaderName × HeaderValue) :
    ofList (fields ++ [field]) = (ofList fields).append field.1 field.2 :=
  appendAll_append {} fields [field]

/-! ## Fields that were taken apart -/

/-- Values without a name go to the name that came last. -/
theorem merge_go_unnamed (name : HeaderName) (values : List HeaderValue) (headers : Headers)
    (rest : List (Option HeaderName × HeaderValue)) :
    merge.go (some name) headers (values.map (none, ·) ++ rest) =
      merge.go (some name) (headers.appendAll (values.map (name, ·))) rest := by
  induction values generalizing headers with
  | nil => rfl
  | cons value values ih =>
    rw [List.map_cons, List.cons_append, merge.go]
    exact ih _

/-- Whichever name came last, the fields that follow keep their names. -/
theorem merge_go_takenApart (last : Option HeaderName) (headers added : Headers) :
    merge.go last headers added.takenApart = headers.appendAll added.toList := by
  unfold takenApart toList
  generalize added.groups = groups
  induction groups generalizing last headers with
  | nil => rfl
  | cons group groups ih =>
    obtain ⟨name, values⟩ := group
    rw [List.flatMap_cons, List.flatMap_cons, appendAll_append]
    cases values with
    | nil => exact ih last headers
    | cons first later =>
      dsimp only
      rw [List.cons_append, merge.go, Option.some_or]
      dsimp only
      rw [merge_go_unnamed, ih]
      rfl

theorem merge_eq_appendAll (headers added : Headers) :
    headers.merge added = headers.appendAll added.toList :=
  merge_go_takenApart none headers added

/-! ## Values -/

/-- Fields that are added stand behind the other values of their names. -/
theorem getAll_appendAll (headers : Headers) (fields : List (HeaderName × HeaderValue))
    (name : HeaderName) :
    (headers.appendAll fields).getAll name = headers.getAll name ++
      fields.filterMap fun (held, value) => if name = held then some value else none := by
  unfold appendAll
  induction fields generalizing headers with
  | nil => rw [List.foldl_nil, List.filterMap_nil, List.append_nil]
  | cons field fields ih =>
    rw [List.foldl_cons, ih, getAll_append, List.append_assoc, List.filterMap_cons]
    by_cases same : name = field.1 <;> simp [same]

section

variable {asked : HeaderName} {values : List HeaderValue}
  {groups : List (HeaderName × List HeaderValue)}

theorem lookup_eq_none_of_not_mem (fresh : asked ∉ groups.map Prod.fst) :
    groups.lookup asked = none := by
  rw [List.lookup_eq_none_iff]
  intro group member
  have other : asked ≠ group.1 := fun same => fresh (same ▸ List.mem_map_of_mem member)
  simpa using other

theorem lookup_group (asked : HeaderName) :
    (List.lookup asked ((name, values) :: groups)).getD [] =
      if asked = name then values else (groups.lookup asked).getD [] := by
  by_cases same : asked = name
  · simp [same]
  · simp [List.lookup_cons, beq_eq_false_iff_ne.mpr same, same]

end

theorem getAll_of_not_mem (fresh : name ∉ headers.names) : headers.getAll name = [] := by
  rw [getAll, lookup_eq_none_of_not_mem fresh, Option.getD_none]

/-- Headers hold the values of each name, names in their order. -/
theorem toList_eq (headers : Headers) :
    headers.toList = headers.names.flatMap fun name => (headers.getAll name).map (name, ·) := by
  have nodup := headers.nodup
  unfold toList names getAll
  generalize headers.groups = groups at nodup ⊢
  induction groups with
  | nil => rfl
  | cons group groups ih =>
    obtain ⟨name, values⟩ := group
    obtain ⟨fresh, others⟩ := List.nodup_cons.mp nodup
    have later : ∀ other ∈ groups.map Prod.fst,
        ((List.lookup other ((name, values) :: groups)).getD []).map (other, ·) =
          ((groups.lookup other).getD []).map (other, ·) := fun other member => by
      rw [lookup_group, if_neg (ne_of_mem_of_not_mem member fresh)]
    rw [List.flatMap_cons, List.map_cons, List.flatMap_cons, lookup_group, if_pos rfl, ih others,
      List.flatMap_congr later]

/-- The values of a name are those of its lines. -/
theorem filterMap_toList (headers : Headers) (name : HeaderName) :
    headers.toList.filterMap (fun (held, value) => if name = held then some value else none) =
      headers.getAll name := by
  have nodup := headers.nodup
  unfold toList getAll
  generalize headers.groups = groups at nodup ⊢
  induction groups with
  | nil => rfl
  | cons group groups ih =>
    obtain ⟨held, values⟩ := group
    obtain ⟨fresh, others⟩ := List.nodup_cons.mp nodup
    rw [List.flatMap_cons, List.filterMap_append, ih others, lookup_group, List.filterMap_map]
    by_cases same : name = held
    · subst same
      simp [lookup_eq_none_of_not_mem fresh]
    · simp [same]

/-- The values of headers that are added stand behind the others of the same name. -/
theorem getAll_merge (headers added : Headers) (name : HeaderName) :
    (headers.merge added).getAll name = headers.getAll name ++ added.getAll name := by
  rw [merge_eq_appendAll, getAll_appendAll, filterMap_toList]

/-! ## Fields -/

/-- Adding a field adds it and nothing else. -/
theorem perm_toList_append (headers : Headers) (name : HeaderName) (value : HeaderValue) :
    (headers.append name value).toList.Perm (headers.toList ++ [(name, value)]) := by
  unfold append toList
  dsimp only
  induction headers.groups with
  | nil => exact .refl _
  | cons group groups ih =>
    obtain ⟨held, values⟩ := group
    rw [addTo]
    by_cases same : held = name
    · rw [if_pos same, List.flatMap_cons, List.flatMap_cons, List.map_append, List.append_assoc,
        List.append_assoc, same]
      exact List.perm_append_comm.append_left _
    · rw [if_neg same, List.flatMap_cons, List.flatMap_cons, List.append_assoc]
      exact ih.append_left _

theorem perm_toList_appendAll (headers : Headers) (fields : List (HeaderName × HeaderValue)) :
    (headers.appendAll fields).toList.Perm (headers.toList ++ fields) := by
  induction fields generalizing headers with
  | nil =>
    rw [List.append_nil]
    exact .refl _
  | cons field fields ih =>
    refine (ih (headers.append field.1 field.2)).trans ?_
    rw [List.append_cons]
    exact (perm_toList_append headers field.1 field.2).append_right fields

/-- No field is lost, and each keeps its name. -/
theorem perm_toList_merge (headers added : Headers) :
    (headers.merge added).toList.Perm (headers.toList ++ added.toList) := by
  rw [merge_eq_appendAll]
  exact perm_toList_appendAll headers added.toList

/-! ## Names -/

theorem mem_names_append_iff {value : HeaderValue} {asked : HeaderName} :
    asked ∈ (headers.append name value).names ↔ asked ∈ headers.names ∨ asked = name := by
  rw [names_append]
  split
  · next held => exact ⟨.inl, fun member => member.elim id fun same => same ▸ held⟩
  · rw [List.mem_append, List.mem_singleton]

/-- The names are the old ones and those of the fields. -/
theorem mem_names_appendAll_iff {fields : List (HeaderName × HeaderValue)} :
    name ∈ (headers.appendAll fields).names ↔
      name ∈ headers.names ∨ name ∈ fields.map Prod.fst := by
  induction fields generalizing headers with
  | nil => exact (or_iff_left List.not_mem_nil).symm
  | cons field fields ih =>
    rw [appendAll, List.foldl_cons, ← appendAll, ih, mem_names_append_iff, or_assoc, List.map_cons,
      List.mem_cons]

theorem mem_names_ofList_iff {fields : List (HeaderName × HeaderValue)} :
    name ∈ (ofList fields).names ↔ name ∈ fields.map Prod.fst :=
  mem_names_appendAll_iff.trans (or_iff_right List.not_mem_nil)

/-- Fields of names that are there bring no name. -/
theorem names_appendAll_of_mem (held : name ∈ headers.names) (values : List HeaderValue) :
    (headers.appendAll (values.map (name, ·))).names = headers.names := by
  induction values generalizing headers with
  | nil => rfl
  | cons value values ih =>
    have still : (headers.append name value).names = headers.names := by
      rw [names_append, if_pos held]
    have later := @ih (headers.append name value) (still ▸ held)
    rw [still] at later
    exact later

theorem names_appendAll_group {values : List HeaderValue} (nonempty : values ≠ [])
    (headers : Headers) (name : HeaderName) :
    (headers.appendAll (values.map (name, ·))).names =
      if name ∈ headers.names then headers.names else headers.names ++ [name] := by
  obtain ⟨first, later, rfl⟩ := List.exists_cons_of_ne_nil nonempty
  rw [← names_append headers name first]
  refine names_appendAll_of_mem ?_ later
  rw [names_append]
  split
  · assumption
  · simp

/-- The names of headers that are added stand behind the others, those of them that are new. -/
theorem names_merge (headers added : Headers) :
    (headers.merge added).names =
      headers.names ++ added.names.filter (· ∉ headers.names) := by
  rw [merge_eq_appendAll]
  have nodup := added.nodup
  have nonempty := added.nonempty
  unfold toList
  rw [show added.names = added.groups.map Prod.fst from rfl]
  generalize added.groups = groups at nodup nonempty ⊢
  induction groups generalizing headers with
  | nil => exact (List.append_nil _).symm
  | cons group groups ih =>
    obtain ⟨name, values⟩ := group
    obtain ⟨fresh, others⟩ := List.nodup_cons.mp nodup
    obtain ⟨some, later⟩ := List.forall_mem_cons.mp nonempty
    rw [List.flatMap_cons, appendAll_append, ih _ others later, names_appendAll_group some,
      List.map_cons]
    by_cases held : name ∈ headers.names
    · rw [if_pos held, List.filter_cons_of_neg (by simpa using held)]
    · rw [if_neg held, List.filter_cons_of_pos (by simpa using held), List.append_assoc,
        List.singleton_append]
      congr 2
      refine List.filter_congr fun other member => ?_
      simp [ne_of_mem_of_not_mem member fresh]

end WebSocket.Http.Headers
