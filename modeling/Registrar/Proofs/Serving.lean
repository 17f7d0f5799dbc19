import Registrar.Proofs.NanFree
import Registrar.Proofs.Stability

/-!
# How requests fail

A request reads rows by the indexes of the resource it is for, compares them by the values there,
copies values between rows by index, and flags a row by the schema of the row. These agree where all
resources of a collection fit one another (`Registry.Compatible`); then every request, in every
state that requests reach, sorts no rows but those that can be sorted, and fails as it should. A
descriptor is accepted whether they fit or not.

* `Service.orderly_list` to `orderly_delete`: what each operation can fail with.
* `Service.sortable_list`: the rows that a list sorts can be sorted.
* `Traffic.fails_as_expected`: in every state a request fails, if it does, as it should.
* `Traffic.resolve_admits_clashes`: where resources do not fit, requests crash, cannot be merged and
  cannot be flagged.
* `Traffic.resolve_admits_disorder`: nor can the rows of a list be sorted there.
-/

namespace Registrar

/-! ## Actions -/

namespace Action

variable {α β : Type} {full : Prop} {st : Store}

theorem orderly_bind {x : Action α} {f : α → Action β} (hx : Orderly full (x st).1)
    (hf : ∀ a st', x st = (.ok a, st') → Orderly full (f a st').1) :
    Orderly full ((x >>= f) st).1 := by
  rw [bind_apply]
  rcases h : x st with ⟨failure | a, st'⟩
  · rw [h] at hx
    exact orderly_error (hx failure rfl)
  · exact hf a st' h

theorem map_apply (x : Action α) (g : α → β) (st : Store) :
    (g <$> x) st = ((x st).1.map g, (x st).2) := by
  show (x >>= fun a => pure (g a)) st = _
  rw [bind_apply]
  rcases x st with ⟨failure | a, st'⟩ <;> rfl

theorem orderly_map {x : Action α} (g : α → β) (hx : Orderly full (x st).1) :
    Orderly full ((g <$> x) st).1 := by
  rw [map_apply]
  exact hx.map g

theorem orderly_lift {x : Except Failure α} {f : α → Action β} (hx : Orderly full x)
    (hf : ∀ a, x = .ok a → Orderly full (f a st).1) :
    Orderly full (((liftExcept x : Action α) >>= f) st).1 := by
  rw [liftExcept_bind_apply]
  cases x with
  | error failure => exact orderly_error (hx failure rfl)
  | ok a => exact hf a rfl

end Action

theorem Store.orderly_change {α : Type} {full : Prop} {st : Store} {c : String}
    {f : Table → Except Failure (α × Table)} (h : Orderly full (f (st.table c))) :
    Orderly full (Store.change c f st).1 := by
  unfold Store.change
  split
  · exact orderly_ok _
  · rename_i failure failed
    exact orderly_error (h failure failed)

/-! ## Resources of one collection -/

/-- The kinds of the fields of a schema, in their order. -/
def Schema.kinds (s : Schema) : List Kind := s.fields.map Field.kind

/-- Resources that share a collection fit one another: those that list it find values of their own
kinds at all their indexes, those that update it are of one layout, and where one deletes all can be
flagged. -/
structure Registry.Compatible (reg : Registry) : Prop where
  list : ∀ s ∈ reg.schemas, ∀ s' ∈ reg.schemas, s.collection = s'.collection →
    s.allows .list = true → s.kinds <+: s'.kinds
  update : ∀ s ∈ reg.schemas, ∀ s' ∈ reg.schemas, s.collection = s'.collection →
    s.allows .update = true → s.sameLayout s' = true
  delete : ∀ s ∈ reg.schemas, ∀ s' ∈ reg.schemas, s.collection = s'.collection →
    s.allows .delete = true → s'.softDelete.isSome = true

section Kinds

variable {s s' : Schema}

theorem Schema.le_length_of_kinds (h : s.kinds <+: s'.kinds) :
    s.fields.length ≤ s'.fields.length := by
  simpa [kinds] using h.length_le

/-- A row of the one resource has values of the kinds of the other. -/
theorem Record.WellTyped.hasKind_of_kinds {r : Record} (typed : r.WellTyped)
    (h : s.kinds <+: r.schema.kinds) (i : Fin s.fields.length) {v : Value}
    (hv : r.values[i.val]? = some v) : v.HasKind (s.fields.get i).kind := by
  have there : s.kinds[i.val]? = some (s.fields.get i).kind := by
    unfold Schema.kinds
    rw [List.getElem?_map, s.getElem?_fields]
    rfl
  have same : r.schema.kinds[i.val]? = some (s.fields.get i).kind := by
    obtain ⟨rest, hrest⟩ := h
    have inside : i.val < s.kinds.length := (List.getElem?_eq_some_iff.mp there).1
    rw [← hrest, List.getElem?_append_left inside, there]
  unfold Schema.kinds at same
  rw [List.getElem?_map] at same
  obtain ⟨f, hf, kind⟩ := Option.map_eq_some_iff.mp same
  rw [← kind]
  exact typed i f v hf hv

end Kinds

/-! ## Operations -/

namespace Service

variable {sv : Service} {full : Prop} {now : Int64} {s : Schema} {resource : String} {id : Value}
  {body : Json} {st : Store}

theorem orderly_fetch (s : Schema) (id : Value) (st : Store) :
    Orderly full (fetch s id st).1 := by
  rw [fetch_apply]
  split
  · exact orderly_ok _
  · exact orderly_client rfl

theorem orderly_read : Orderly full (sv.read resource id st).1 :=
  Action.orderly_lift (sv.orderly_schema resource .read) fun s _ => orderly_fetch s id st

/-- A list with parameters that make a query is a selection, and one with others is refused. -/
theorem list_apply (sv : Service) {params : List (String × String)}
    (hs : sv.schema resource .list = .ok s) (st : Store) :
    sv.list resource params st = (match Query.compile s params with
      | .ok q => ((st.table s.collection).select s q).map fun rows => rows.map fun r =>
        match q.fields with
        | some keys => r.project keys
        | none => r.toJson
      | .error fault => .error (.query fault), st) := by
  unfold list
  rw [Action.liftExcept_bind_apply, hs]
  dsimp only
  cases Query.compile s params with
  | error fault => rfl
  | ok q =>
    show (Store.select s q >>= fun rows => pure _) st = _
    have selected : Store.select s q st = ((st.table s.collection).select s q, st) := rfl
    rw [Action.bind_apply, selected]
    show _ = (((st.table s.collection).select s q).map _, st)
    cases (st.table s.collection).select s q <;> rfl

/-- **A list is orderly** where the rows of the collection are no shorter than the resource. -/
theorem orderly_list {params : List (String × String)} (hst : st.RowsOf sv.registry.schemas)
    (fits : sv.registry.Compatible) : Orderly full (sv.list resource params st).1 := by
  cases hs : sv.schema resource .list with
  | error failure =>
    unfold list
    rw [Action.liftExcept_bind_apply, hs]
    exact orderly_error (sv.orderly_schema resource .list failure hs)
  | ok s =>
    rw [sv.list_apply hs]
    obtain ⟨hmem, -, allowed⟩ := schema_eq_ok hs
    cases hq : Query.compile s params with
    | error fault => exact orderly_client rfl
    | ok q =>
      obtain ⟨conditions, order⟩ := Query.index?_of_compile hq
      refine (Table.orderly_select conditions order fun r hr => ?_).map _
      obtain ⟨hschema, collection, -, -⟩ := hst _ r hr
      rw [r.length_values]
      exact Schema.le_length_of_kinds (fits.list s hmem _ hschema collection.symm allowed)

/-- **The rows that a list sorts can be sorted**, where the rows of the collection fit the resource
and hold no NaN. -/
theorem sortable_list (hst : st.RowsOf sv.registry.schemas) (fits : sv.registry.Compatible)
    (free : ∀ c, ∀ r ∈ (st.table c).rows, r.NanFree) (hs : sv.schema resource .list = .ok s)
    (q : Query) : q.Sortable s (st.table s.collection) := by
  obtain ⟨hmem, -, allowed⟩ := schema_eq_ok hs
  refine Query.sortable_of_hasKind fun o i _ _ r hr v hv => ?_
  obtain ⟨hschema, collection, typed, -⟩ := hst _ r hr
  have kinds := fits.list s hmem _ hschema collection.symm allowed
  exact ⟨typed.hasKind_of_kinds kinds i hv, free _ r hr v (List.mem_of_getElem? hv)⟩

/-- **A creation is orderly** unless the table is full. -/
theorem orderly_create (hreg : sv.registry.Sound) (hstd : sv.Standard) (hnow : 0 ≤ now) :
    Orderly (∃ s, sv.schema resource .create = .ok s ∧
      (st.table s.collection).Full s.keyField.kind) (sv.create now resource body st).1 := by
  unfold create
  refine Action.orderly_lift (sv.orderly_schema resource .create) fun s hs => ?_
  obtain ⟨hmem, -, -⟩ := schema_eq_ok hs
  have sound := hreg.schemas s hmem
  refine Action.orderly_lift (orderly_created sound (hstd s hmem) hnow) fun r hr => ?_
  obtain ⟨rfl, -⟩ := created_spec (hstd s hmem) hr
  refine Store.orderly_change fun failure failed => ?_
  refine (Table.orderly_insert sound failure failed).imp_right (Or.imp_right fun full => ?_)
  exact ⟨full.1, r.schema, hs, full.2⟩

/-- What is worked out of a copy of a row and written is orderly, where the row is of a resource
that fits. -/
theorem orderly_write {p : Pending} (hreg : sv.registry.Sound) (hstd : sv.Standard)
    (fits : sv.registry.Compatible) (hnow : 0 ≤ now) (hp : p.Fits sv)
    (collection : p.schema.collection = p.current.schema.collection)
    (allowed : p.schema.allows p.change.operation = true) :
    Orderly full (p.write sv now st).1 := by
  have hl := hstd _ hp.schema
  have sound := hreg.schemas _ hp.current
  refine Action.orderly_lift ?_ fun r _ => Store.orderly_change Table.orderly_update
  unfold Change.work
  split
  · rename_i body change
    rw [change] at allowed
    exact orderly_revised hl sound (fits.update _ hp.schema _ hp.current collection allowed) hnow
  · rename_i change
    rw [change] at allowed
    exact orderly_deleted hl sound (fits.delete _ hp.schema _ hp.current collection allowed) hnow

/-- What is found may be written. -/
theorem orderly_found (change : Change) (hreg : sv.registry.Sound) (hstd : sv.Standard)
    (fits : sv.registry.Compatible) (hst : st.RowsOf sv.registry.schemas) (hnow : 0 ≤ now)
    (hs : sv.schema resource change.operation = .ok s) {current : Record}
    (hfind : (st.table s.collection).find? id = some current) :
    Orderly full ((Pending.mk s change current).write sv now st).1 := by
  obtain ⟨hmem, -, allowed⟩ := schema_eq_ok hs
  obtain ⟨hschema, collection, typed, settled⟩ := hst _ _ (List.mem_of_find?_eq_some hfind)
  exact orderly_write hreg hstd fits hnow ⟨hmem, hschema, typed, settled⟩ collection.symm allowed

theorem orderly_update (hreg : sv.registry.Sound) (hstd : sv.Standard)
    (fits : sv.registry.Compatible) (hst : st.RowsOf sv.registry.schemas) (hnow : 0 ≤ now) :
    Orderly full (sv.update now resource id body st).1 := by
  unfold update
  refine Action.orderly_lift (sv.orderly_schema resource .update) fun s hs => ?_
  refine Action.orderly_bind (orderly_fetch s id st) fun current st' found => ?_
  obtain ⟨hfind, rfl⟩ := fetch_eq_ok.mp found
  exact orderly_found (.revision body) hreg hstd fits hst hnow hs hfind

theorem orderly_delete (hreg : sv.registry.Sound) (hstd : sv.Standard)
    (fits : sv.registry.Compatible) (hst : st.RowsOf sv.registry.schemas) (hnow : 0 ≤ now) :
    Orderly full (sv.delete now resource id st).1 := by
  unfold delete
  refine Action.orderly_lift (sv.orderly_schema resource .delete) fun s hs => ?_
  refine Action.orderly_bind (orderly_fetch s id st) fun current st' found => ?_
  obtain ⟨hfind, rfl⟩ := fetch_eq_ok.mp found
  exact orderly_found .deletion hreg hstd fits hst hnow hs hfind

end Service

/-! ## Requests -/

/-- A request to a service. -/
inductive Request where
  | list (resource : String) (params : List (String × String))
  | read (resource : String) (id : Value)
  | create (resource : String) (body : Json)
  | update (resource : String) (id : Value) (body : Json)
  | delete (resource : String) (id : Value)

/-- What a request is answered with. -/
inductive Answer where
  | documents (rows : List Json)
  | record (r : Record)

namespace Request

/-- Serve a request at a time. -/
def serve (sv : Service) (now : Int64) : Request → Action Answer
  | .list resource params => Answer.documents <$> sv.list resource params
  | .read resource id => Answer.record <$> sv.read resource id
  | .create resource body => Answer.record <$> sv.create now resource body
  | .update resource id body => Answer.record <$> sv.update now resource id body
  | .delete resource id => Answer.record <$> sv.delete now resource id

/-- A request is to add to a table without a free key. -/
def Overfills (sv : Service) (st : Store) : Request → Prop
  | .create resource _ => ∃ s, sv.schema resource .create = .ok s ∧
    (st.table s.collection).Full s.keyField.kind
  | _ => False

/-- A request sorts no rows but those that can be sorted. -/
def Sortable (sv : Service) (st : Store) : Request → Prop
  | .list resource params => ∀ s q, sv.schema resource .list = .ok s →
    Query.compile s params = .ok q → q.Sortable s (st.table s.collection)
  | _ => True

theorem sortable {sv : Service} {st : Store} (hst : st.RowsOf sv.registry.schemas)
    (fits : sv.registry.Compatible) (free : ∀ c, ∀ r ∈ (st.table c).rows, r.NanFree)
    (request : Request) : request.Sortable sv st := by
  cases request with
  | list resource params => exact fun s q hs _ => Service.sortable_list hst fits free hs q
  | _ => trivial

/-- **Requests are orderly**, among rows of resources that fit. -/
theorem orderly_serve {sv : Service} {st : Store} {now : Int64} (hreg : sv.registry.Sound)
    (hstd : sv.Standard) (fits : sv.registry.Compatible) (hst : st.RowsOf sv.registry.schemas)
    (hnow : 0 ≤ now) (request : Request) :
    Orderly (request.Overfills sv st) (request.serve sv now st).1 := by
  cases request with
  | list resource params => exact Action.orderly_map _ (Service.orderly_list hst fits)
  | read resource id => exact Action.orderly_map _ Service.orderly_read
  | create resource body => exact Action.orderly_map _ (Service.orderly_create hreg hstd hnow)
  | update resource id body =>
    exact Action.orderly_map _ (Service.orderly_update hreg hstd fits hst hnow)
  | delete resource id =>
    exact Action.orderly_map _ (Service.orderly_delete hreg hstd fits hst hnow)

end Request

/-! ## Every state -/

namespace Traffic

variable {sv : Service} {t : Traffic} {now : Int64}

/-- A request under way is one that its resource exposes, and holds a copy of a row of the
collection. -/
theorem due_of_run (hreg : sv.registry.Sound) (hstd : sv.Standard) (h : Reachable sv t) :
    ∀ p ∈ t.pending, p.schema.allows p.change.operation = true ∧
      p.schema.collection = p.current.schema.collection := by
  induction h with
  | refl => exact fun p hp => absurd hp List.not_mem_nil
  | tail run step ih =>
    intro p hp
    rcases pending_step step hp with before | ⟨resource, id, hs, hfind⟩
    · exact ih p before
    · obtain ⟨-, collection, -⟩ :=
        (sane_of_run hreg hstd run).rows _ _ (List.mem_of_find?_eq_some hfind)
      exact ⟨(Service.schema_eq_ok hs).2.2, collection.symm⟩

/-- **Every request fails as it should**, whatever requests came before it and however their steps
fell between one another: it sorts no rows but those that can be sorted, and fails with what is the
sender's, or with what a rule asked for. So does the second step of a request that other requests
came between. -/
theorem fails_as_expected {d : Descriptor} (hreg : d.resolve = .ok sv.registry)
    (hstd : sv.Standard) (fits : sv.registry.Compatible) (ht : Reachable sv t) (hnow : 0 ≤ now) :
    (∀ request : Request, request.Sortable sv t.store ∧ ∀ failure : Failure,
      (request.serve sv now t.store).1 = .error failure →
        failure.Expected (request.Overfills sv t.store)) ∧
    ∀ p ∈ t.pending, ∀ failure : Failure, (p.write sv now t.store).1 = .error failure →
      failure.Expected False := by
  have sound := Registry.sound_of_resolve hreg
  have sane := sane_of_run sound hstd ht
  have free := nanFree_of_run hstd ht
  refine ⟨fun request => ⟨request.sortable sane.rows fits free.rows,
    request.orderly_serve sound hstd fits sane.rows hnow⟩, fun p hp => ?_⟩
  obtain ⟨allowed, collection⟩ := due_of_run sound hstd ht p hp
  exact Service.orderly_write sound hstd fits hnow (sane.pending p hp) collection allowed

/-- A resource whose records are kept with those of others. -/
def sharing (collection name : String) (softDelete : Option String)
    (operations : List Operation) (fields : List Descriptor.Field) : Descriptor.Resource where
  name := name
  collection := some collection
  primaryKey := "id"
  autoKey := true
  created := none
  updated := none
  softDelete := softDelete
  operations := operations
  fields := noteField "id" .int none none :: fields

/-- The schema of a resource whose records are kept with those of others. -/
def sharingSchema (collection name : String) (fields : List Field)
    (softDelete : Option (Fin (fields.length + 1))) (operations : List Operation) : Schema where
  name := name
  collection := collection
  fields := noteColumn "id" .int (some "id") none :: fields
  primaryKey := 0
  autoKey := true
  created := none
  updated := none
  softDelete := softDelete
  operations := operations

/-- The descriptor of an archive of letters, which are listed as sheets, without their weight. -/
def archive : Descriptor where
  resources := [
    sharing "archive" "letter" (some "gone") [.create] [noteField "text" .string none none,
      noteField "gone" .bool none none, noteField "weight" .float none none],
    sharing "archive" "sheet" (some "gone") [.list, .delete] [noteField "text" .string none none,
      noteField "gone" .bool none none]]

/-- The schema of letters. -/
def letter : Schema :=
  sharingSchema "archive" "letter" [noteColumn "text" .string (some "text") none,
    noteColumn "gone" .bool (some "gone") none, noteColumn "weight" .float (some "weight") none]
    (some 2) [.create]

/-- The schema of letters as sheets. -/
def letterSheet : Schema :=
  sharingSchema "archive" "sheet" [noteColumn "text" .string (some "text") none,
    noteColumn "gone" .bool (some "gone") none] (some 2) [.list, .delete]

/-- The service of an archive. -/
def archiveService : Service := ⟨⟨[letter, letterSheet]⟩, .plain, []⟩

/-- A letter with a number and a text. -/
def aLetter (n : Int64) (text : String) : Record :=
  ⟨letter, [.int n, .string text, .bool false, .float 0], rfl⟩

/-- The store with two letters. -/
def twoLetters : Store := ⟨[("archive", ⟨[aLetter 1 "b", aLetter 2 "a"], 2⟩)]⟩

theorem reachable_twoLetters : Reachable archiveService ⟨twoLetters, []⟩ := by
  have first : Step archiveService start ⟨⟨[("archive", ⟨[aLetter 1 "b"], 1⟩)]⟩, []⟩ :=
    .create start 10 "letter" (.object [("text", .string "b")])
  exact .tail (.single first) (.create _ 10 "letter" (.object [("text", .string "a")]))

theorem fails_as_expected_twoLetters :
    archive.resolve = .ok archiveService.registry ∧ archiveService.Standard ∧
    archiveService.registry.Compatible ∧ Reachable archiveService ⟨twoLetters, []⟩ ∧
    (Request.list "sheet" [("q-order", "asc-text")]).Sortable archiveService twoLetters ∧
    ((Request.delete "sheet" (.int 7)).serve archiveService 20 twoLetters).1 =
      .error (.notFound (.row "archive")) ∧
    (Failure.notFound (.row "archive")).Expected False := by
  have resolves : archive.resolve = .ok archiveService.registry := by cbv
  have standard : archiveService.Standard := fun _ _ => .inr rfl
  have fits : archiveService.registry.Compatible := ⟨by decide, by decide, by decide⟩
  have since : (0 : Int64) ≤ 20 := by decide
  have missing : ((Request.delete "sheet" (.int 7)).serve archiveService 20 twoLetters).1 =
      .error (.notFound (.row "archive")) := rfl
  obtain ⟨all, -⟩ := fails_as_expected resolves standard fits reachable_twoLetters since
  exact ⟨resolves, standard, fits, reachable_twoLetters, (all _).1, missing, (all _).2 _ missing⟩

/-! ### Resources that clash -/

/-- The descriptor of a desk with cards, which have a key only, and with sheets, which are never
created. Both are kept together. -/
def desk : Descriptor where
  resources := [
    sharing "desk" "card" none [.create] [],
    sharing "desk" "sheet" (some "gone") [.list, .update, .delete]
      [noteField "text" .string none none, noteField "gone" .bool none none]]

/-- The schema of cards. -/
def card : Schema := sharingSchema "desk" "card" [] none [.create]

/-- The schema of sheets. -/
def sheet : Schema :=
  sharingSchema "desk" "sheet" [noteColumn "text" .string (some "text") none,
    noteColumn "gone" .bool (some "gone") none] (some 2) [.list, .update, .delete]

/-- The service of a desk. -/
def deskService : Service := ⟨⟨[card, sheet]⟩, .plain, []⟩

/-- The store with one card. -/
def oneCard : Store := ⟨[("desk", ⟨[⟨card, [.int 1], rfl⟩], 1⟩)]⟩

/-- **A descriptor is accepted where resources clash**: then a list crashes on a value that a row
does not have, a row of another resource cannot be merged, and it cannot be flagged. -/
theorem resolve_admits_clashes :
    desk.resolve = .ok deskService.registry ∧ deskService.Standard ∧
    Reachable deskService ⟨oneCard, []⟩ ∧
    ((Request.list "sheet" [("text", "a")]).serve deskService 20 oneCard).1 =
      .error (.crash (.missingValue 1)) ∧
    ((Request.update "sheet" (.int 1) (.object [])).serve deskService 20 oneCard).1 =
      .error (.merge ⟨"sheet", "card"⟩) ∧
    ((Request.delete "sheet" (.int 1)).serve deskService 20 oneCard).1 =
      .error (.internal (.noSoftDelete "sheet")) :=
  ⟨by cbv, fun _ _ => .inr rfl, .single (.create .start 10 "card" (.object [])), rfl, rfl, rfl⟩

/-- The descriptor of a drawer with labels, whose sizes are texts, and with parts, whose sizes are
numbers. -/
def drawer : Descriptor where
  resources := [
    sharing "drawer" "label" none [.list, .create] [noteField "size" .string none none],
    sharing "drawer" "part" none [.create] [noteField "size" .int none none]]

/-- The schema of labels. -/
def label : Schema :=
  sharingSchema "drawer" "label" [noteColumn "size" .string (some "size") none] none
    [.list, .create]

/-- The schema of parts. -/
def part : Schema :=
  sharingSchema "drawer" "part" [noteColumn "size" .int (some "size") none] none [.create]

/-- The service of a drawer. -/
def drawerService : Service := ⟨⟨[label, part]⟩, .plain, []⟩

/-- A label with a text for its size. -/
def aLabel : Record := ⟨label, [.int 1, .string "m"], rfl⟩

/-- A part with a number and a size. -/
def aPart (n size : Int64) : Record := ⟨part, [.int n, .int size], rfl⟩

/-- The drawer with the label, and with parts of the sizes two and one. -/
def threeSizes : Store := ⟨[("drawer", ⟨[aLabel, aPart 2 2, aPart 3 1], 3⟩)]⟩

theorem reachable_threeSizes : Reachable drawerService ⟨threeSizes, []⟩ := by
  have first : Step drawerService start ⟨⟨[("drawer", ⟨[aLabel], 1⟩)]⟩, []⟩ :=
    .create start 10 "label" (.object [("size", .string "m")])
  have second : Step drawerService ⟨⟨[("drawer", ⟨[aLabel], 1⟩)]⟩, []⟩
      ⟨⟨[("drawer", ⟨[aLabel, aPart 2 2], 2⟩)]⟩, []⟩ :=
    .create _ 10 "part" (.object [("size", .number (.nat 2))])
  exact .tail (.tail (.single first) second)
    (.create _ 10 "part" (.object [("size", .number (.nat 1))]))

/-- **Rows of resources that clash cannot be sorted**: no number comes before a text or behind it,
so one does not come before the text, nor the text before two, and yet one comes before two. -/
theorem resolve_admits_disorder :
    drawer.resolve = .ok drawerService.registry ∧ drawerService.Standard ∧
    Reachable drawerService ⟨threeSizes, []⟩ ∧
    ¬ (Request.list "label" [("q-order", "asc-size")]).Sortable drawerService threeSizes := by
  refine ⟨by cbv, fun _ _ => .inr rfl, reachable_threeSizes, fun sortable => ?_⟩
  have query : Query.compile label [("q-order", "asc-size")] =
      .ok ⟨[], some ⟨"size", .ascending⟩, 1000, 0, none⟩ := rfl
  have weak : Table.Sortable 1 .ascending [aLabel, aPart 2 2, aPart 3 1] :=
    sortable label _ rfl query [] _ ⟨"size", .ascending⟩ ⟨1, by decide⟩ rfl rfl rfl rfl
  have tied := weak.trans (.int 1) (.string "m") (.int 2) ⟨aPart 3 1, by simp, rfl⟩
    ⟨aLabel, by simp, rfl⟩ ⟨aPart 2 2, by simp, rfl⟩ rfl rfl
  exact absurd tied (by decide)

end Traffic

end Registrar
