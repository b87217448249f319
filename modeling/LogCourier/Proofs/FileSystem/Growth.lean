import LogCourier.FileSystem
import LogCourier.Proofs.Outcome

/-!
# Files that only grow

Appending to files leaves everything else where it is: a path that leads to a regular file still
leads to it, and what was in the file is still there, at the same offset (`grows_append`).
-/

namespace LogCourier

/-! ## Computations that give at least as much -/

/-- Whatever the first computation gives, the second one gives too. -/
def YieldsToo {ε α : Type} (x y : Except ε α) : Prop := ∀ a, x = .ok a → y = .ok a

namespace YieldsToo

variable {ε α β : Type}

theorem refl (x : Except ε α) : YieldsToo x x := fun _ h => h

theorem error (e : ε) (y : Except ε α) : YieldsToo (.error e) y := by
  intro a h
  cases h

theorem bind {x y : Except ε α} {f g : α → Except ε β} (h : YieldsToo x y)
    (hfg : ∀ a, YieldsToo (f a) (g a)) : YieldsToo (x >>= f) (y >>= g) := by
  intro b hb
  obtain ⟨a, ha, hb⟩ := bind_eq_ok.mp hb
  exact bind_eq_ok.mpr ⟨a, h a ha, hfg a b hb⟩

theorem ite {c : Prop} [Decidable c] {x x' y y' : Except ε α} (hx : YieldsToo x x')
    (hy : YieldsToo y y') : YieldsToo (if c then x else y) (if c then x' else y') := by
  split
  · exact hx
  · exact hy

theorem foldlM {f g : α → β → Except ε α} (hfg : ∀ a b, YieldsToo (f a b) (g a b)) (l : List β)
    (a : α) : YieldsToo (l.foldlM f a) (l.foldlM g a) := by
  induction l generalizing a with
  | nil => exact refl _
  | cons b l ih => exact bind (hfg a b) ih

end YieldsToo

namespace FileSystem

/-- All that there was is still there, and files have only got longer. -/
structure Grows (fs fs' : FileSystem) : Prop where
  workingDirectory : fs'.workingDirectory = fs.workingDirectory
  idAt : ∀ place id, fs.idAt place = some id → fs'.idAt place = some id
  directory : ∀ id, fs.node id = some .directory → fs'.node id = some .directory
  file : ∀ id b, fs.node id = some (.file b) → ∃ more, fs'.node id = some (.file (b ++ more))

theorem Grows.refl (fs : FileSystem) : fs.Grows fs where
  workingDirectory := rfl
  idAt _ _ h := h
  directory _ h := h
  file _ b h := ⟨[], by rwa [List.append_nil]⟩

theorem Grows.trans {fs fs' fs'' : FileSystem} (h : fs.Grows fs') (h' : fs'.Grows fs'') :
    fs.Grows fs'' where
  workingDirectory := h'.workingDirectory.trans h.workingDirectory
  idAt place id hid := h'.idAt place id (h.idAt place id hid)
  directory id hid := h'.directory id (h.directory id hid)
  file id b hid := by
    obtain ⟨more, hmore⟩ := h.file id b hid
    obtain ⟨rest, hrest⟩ := h'.file id _ hmore
    exact ⟨more ++ rest, by rw [hrest, List.append_assoc]⟩

theorem content?_eq_some {fs : FileSystem} {id : FileId} {b : Bytes} :
    fs.content? id = some b ↔ fs.node id = some (.file b) := by
  rw [content?]
  split
  next b' h =>
    rw [h]
    simp
  next h =>
    constructor
    · intro hb
      cases hb
    · intro hb
      exact absurd hb (h b)

theorem Grows.content? {fs fs' : FileSystem} (h : fs.Grows fs') {id : FileId} {b : Bytes}
    (hb : fs.content? id = some b) : ∃ more, fs'.content? id = some (b ++ more) := by
  obtain ⟨more, hmore⟩ := h.file id b (content?_eq_some.mp hb)
  exact ⟨more, content?_eq_some.mpr hmore⟩

/-! ## Paths -/

theorem Grows.enter {fs fs' : FileSystem} (h : fs.Grows fs') (place : Place) (name : String) :
    YieldsToo (fs.enter place name) (fs'.enter place name) := by
  intro next hnext
  rw [FileSystem.enter] at hnext
  split at hnext
  next => cases hnext
  next => cases hnext
  next hnode =>
    obtain ⟨id, hid, hdirectory⟩ := Option.bind_eq_some_iff.mp hnode
    rw [FileSystem.enter, h.idAt place id hid, Option.bind_some, h.directory id hdirectory]
    exact hnext

theorem Grows.follow {fs fs' : FileSystem} (h : fs.Grows fs') (place : Place) (name : String) :
    YieldsToo (fs.follow place name) (fs'.follow place name) :=
  .bind (h.enter place name) fun _ => .refl _

theorem Grows.locate {fs fs' : FileSystem} (h : fs.Grows fs') (path : String) :
    YieldsToo (fs.locate path) (fs'.locate path) := by
  unfold FileSystem.locate
  rw [h.workingDirectory]
  refine .ite (.error _ _) (.ite (.error _ _) (.ite (.error _ _) ?_))
  refine .bind (.foldlM h.follow _ _) ?_
  intro above
  cases ((Text.split '/' path).filter (· ≠ "")).getLast? with
  | none => exact .refl _
  | some name => exact .bind (h.enter above name) fun _ => .refl _

theorem resolve_eq_ok {fs : FileSystem} {path : String} {id : FileId} :
    fs.resolve path = .ok id ↔ ∃ t, fs.locate path = .ok t ∧ fs.entry t = .ok (some id) ∧
      ¬ (t.endsWithSlash = true ∧ (fs.content? id).isSome = true) := by
  unfold resolve
  constructor
  · intro h
    obtain ⟨t, hlocate, h⟩ := bind_eq_ok.mp h
    obtain ⟨found, hentry, h⟩ := bind_eq_ok.mp h
    cases found with
    | none => cases h
    | some id' =>
      simp only at h
      split at h
      next => cases h
      next hslash =>
        cases h
        exact ⟨t, hlocate, hentry, hslash⟩
  · rintro ⟨t, hlocate, hentry, hslash⟩
    refine bind_eq_ok.mpr ⟨t, hlocate, bind_eq_ok.mpr ⟨some id, hentry, ?_⟩⟩
    simp only
    rw [if_neg hslash]
    rfl

theorem Grows.entry {fs fs' : FileSystem} (h : fs.Grows fs') {t : Target} {id : FileId}
    (hid : fs.entry t = .ok (some id)) : fs'.entry t = .ok (some id) := by
  rw [FileSystem.entry] at hid ⊢
  split at hid
  next => cases hid
  next hshort =>
    have hplace : fs.idAt t.place = some id := by simpa using hid
    rw [if_neg hshort, h.idAt _ _ hplace]

/-- A path to a regular file leads to it for as long as things only grow. -/
theorem Grows.resolve {fs fs' : FileSystem} (h : fs.Grows fs') {path : String} {id : FileId}
    (hpath : fs.resolve path = .ok id) (hregular : (fs.content? id).isSome) :
    fs'.resolve path = .ok id := by
  obtain ⟨t, hlocate, hentry, hslash⟩ := resolve_eq_ok.mp hpath
  refine resolve_eq_ok.mpr ⟨t, h.locate path t hlocate, h.entry hentry, ?_⟩
  rintro ⟨hends, _⟩
  exact hslash ⟨hends, hregular⟩

/-! ## Appending -/

theorem node_add {fs : FileSystem} {id : FileId} {node : Node} (h : fs.node id = some node)
    (place : Place) (new : Node) : (fs.add place new).node id = some node := by
  have hlt : id < fs.nodes.size := (Array.getElem?_eq_some_iff.mp h).1
  rw [FileSystem.node, add, Array.getElem?_push, if_neg (Nat.ne_of_lt hlt)]
  exact h

theorem grows_add {fs : FileSystem} {place : Place} (hfree : fs.idAt place = none) (node : Node) :
    fs.Grows (fs.add place node) where
  workingDirectory := rfl
  idAt place' id hid := by
    rw [FileSystem.idAt, add, List.lookup_cons]
    split
    next hsame =>
      rw [← eq_of_beq hsame, hid] at hfree
      cases hfree
    next => exact hid
  directory id hid := node_add hid place node
  file id b hid := ⟨[], by rw [List.append_nil]; exact node_add hid place node⟩

theorem node_update (fs : FileSystem) (id id' : FileId) (f : Bytes → Bytes) :
    (fs.update id f).node id' =
      if id = id' then (fs.node id').map fun
        | .file b => .file (f b)
        | .directory => .directory
      else fs.node id' :=
  Array.getElem?_modify

/-! ## Other contents -/

theorem content?_update (fs : FileSystem) (id id' : FileId) (f : Bytes → Bytes) :
    (fs.update id f).content? id' =
      if id = id' then (fs.content? id').map f else fs.content? id' := by
  by_cases h : id = id'
  · rw [if_pos h, FileSystem.content?, node_update, if_pos h, FileSystem.content?]
    cases fs.node id' with
    | none => rfl
    | some node => cases node <;> rfl
  · rw [if_neg h, FileSystem.content?, node_update, if_neg h, FileSystem.content?]

theorem enter_update (fs : FileSystem) (id : FileId) (f : Bytes → Bytes) (place : Place)
    (name : String) : (fs.update id f).enter place name = fs.enter place name := by
  have hplace : (fs.update id f).idAt place = fs.idAt place := rfl
  rw [FileSystem.enter, FileSystem.enter, hplace]
  cases fs.idAt place with
  | none => rfl
  | some id' =>
    rw [Option.bind_some, Option.bind_some, node_update]
    by_cases h : id = id'
    · rw [if_pos h]
      cases fs.node id' with
      | none => rfl
      | some node => cases node <;> rfl
    · rw [if_neg h]

/-- Paths lead where they led before, whatever is written to files. -/
theorem resolve_update (fs : FileSystem) (id : FileId) (f : Bytes → Bytes) (path : String) :
    (fs.update id f).resolve path = fs.resolve path := by
  have hfollow : (fs.update id f).follow = fs.follow := by
    funext place name
    rw [FileSystem.follow, enter_update, FileSystem.follow]
  have hlocate : (fs.update id f).locate path = fs.locate path := by
    unfold FileSystem.locate
    simp only [hfollow, enter_update]
    rfl
  have hregular (id' : FileId) :
      ((fs.update id f).content? id').isSome = (fs.content? id').isSome := by
    rw [content?_update]
    split
    · exact Option.isSome_map
    · rfl
  have hentry : (fs.update id f).entry = fs.entry := rfl
  unfold FileSystem.resolve
  simp only [hlocate, hregular, hentry]

theorem resolveWritable_eq_ok {fs : FileSystem} {path : String} {id : FileId} :
    fs.resolveWritable path = .ok id ↔ fs.resolve path = .ok id ∧ (fs.content? id).isSome := by
  unfold resolveWritable
  constructor
  · intro h
    obtain ⟨id', hresolve, h⟩ := bind_eq_ok.mp h
    split at h
    next hregular =>
      cases h
      exact ⟨hresolve, hregular⟩
    next => cases h
  · rintro ⟨hresolve, hregular⟩
    refine bind_eq_ok.mpr ⟨id, hresolve, ?_⟩
    rw [if_pos hregular]
    rfl

/-! ## Appending to a file -/

theorem grows_update_append (fs : FileSystem) (id : FileId) (more : Bytes) :
    fs.Grows (fs.update id (· ++ more)) where
  workingDirectory := rfl
  idAt _ _ h := h
  directory id' hid := by
    rw [node_update]
    split
    · rw [hid]
      rfl
    · exact hid
  file id' b hid := by
    rw [node_update]
    split
    · rw [hid]
      exact ⟨more, rfl⟩
    · exact ⟨[], by rw [List.append_nil, hid]⟩

theorem grows_openOrCreate {fs fs' : FileSystem} {path : String} {id : FileId}
    (h : fs.openOrCreate path = .ok (fs', id)) : fs.Grows fs' := by
  unfold openOrCreate at h
  obtain ⟨t, hlocate, h⟩ := bind_eq_ok.mp h
  simp only at h
  split at h
  next => cases h
  next =>
    obtain ⟨found, hentry, h⟩ := bind_eq_ok.mp h
    cases found with
    | some id' =>
      simp only at h
      split at h
      next =>
        cases h
        exact .refl fs
      next => cases h
    | none =>
      have hfree : fs.idAt t.place = none := by
        rw [FileSystem.entry] at hentry
        split at hentry
        next => cases hentry
        next => simpa using hentry
      cases h
      exact grows_add hfree _

theorem grows_append (fs : FileSystem) (path : String) (data : Bytes) :
    fs.Grows (fs.changed (.append path data)) := by
  rw [changed, change]
  cases h : fs.openOrCreate path with
  | error e => exact .refl fs
  | ok opened => exact (grows_openOrCreate h).trans (grows_update_append _ _ _)

/-- Whatever is appended to, a path to a regular file still leads to it, and what was in it is
still there. -/
theorem exists_appended {fs : FileSystem} {path : String} {id : FileId} {content : Bytes}
    (hpath : fs.resolve path = .ok id) (hcontent : fs.content? id = some content) (path' : String)
    (data : Bytes) :
    (fs.changed (.append path' data)).resolve path = .ok id ∧
      ∃ more, (fs.changed (.append path' data)).content? id = some (content ++ more) := by
  have hgrows := fs.grows_append path' data
  have hregular : (fs.content? id).isSome := by
    rw [hcontent]
    rfl
  exact ⟨hgrows.resolve hpath hregular, hgrows.content? hcontent⟩

/-- Appending to a regular file changes this file and nothing else. -/
theorem changed_append {fs : FileSystem} {path : String} {id : FileId}
    (hpath : fs.resolve path = .ok id) (hregular : (fs.content? id).isSome) (data : Bytes) :
    fs.changed (.append path data) = fs.update id (· ++ data) := by
  obtain ⟨t, hlocate, hentry, hslash⟩ := resolve_eq_ok.mp hpath
  have hfree : ¬(t.isNamed = true ∧ t.endsWithSlash = true) := fun h => hslash ⟨h.2, hregular⟩
  have hopen : fs.openOrCreate path = .ok (fs, id) := by
    unfold openOrCreate
    refine bind_eq_ok.mpr ⟨t, hlocate, ?_⟩
    rw [if_neg hfree]
    refine bind_eq_ok.mpr ⟨some id, hentry, ?_⟩
    simp only
    rw [if_pos hregular]
    rfl
  rw [changed, change, hopen]
  rfl

end FileSystem

end LogCourier
