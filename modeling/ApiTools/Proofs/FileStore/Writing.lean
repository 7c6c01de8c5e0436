import ApiTools.FileStore
import ApiTools.Proofs.Outcome
import Mathlib.Tactic.ByContra

/-!
# What writing a file changes

A file is written through a fresh file beside it, in a directory that is made if it is missing.  All
that making directories does is to put directories where nothing stood.  A fresh file stands where
nothing stood either, so removing it brings back what was there, and the only file that can change
is the one that is written.

## Main definitions

* `Path.place` — where a path leads, its two dots followed.
* `FileStore.contentAt?` — the bytes of the file at a place.
* `FileStore.AddsDirectories` — a store with further directories and nothing else.
* `FileStore.Leads` — names that lead from directory to directory.
* `FileStore.Wrote` — what is there after a file was written.

## Main results

* `FileStore.get?_freshPath` — nothing stands at a fresh path.
* `FileStore.addsDirectories_makeDirectory`, `FileStore.leads_makeDirectory` — what making a
  directory does.
* `FileStore.contentAt?_write_of_error` — **a file that is not written changes no file.**
* `FileStore.wrote_of_write`, `FileStore.Wrote.content`, `FileStore.read_of_content` — **a file that
  is written changes no other one**, holds the bytes of its text, and is read back.
* `FileStore.abortsGeneration_write` — no fault on the way is one of a reference.
-/

namespace ApiTools

namespace Path

/-- Where a path leads from the root, its two dots followed. -/
def place (path : Path) : Path := path.foldl step []

/-- A path leads from where its directory is to where its last name leads. -/
theorem place_eq_step {path : Path} (h : path = path.parent ++ [path.fileName]) :
    path.place = path.parent.place.step path.fileName := by
  conv_lhs => rw [h]
  exact List.foldl_concat ..

end Path

namespace FileStore

/-! ### What stands at a place -/

/-- The bytes of the file at a place, if there is one. -/
def contentAt? (store : FileStore) (place : Path) : Option ByteArray :=
  match store.get? place with
  | some (.file content) => some content
  | _ => none

variable {store later : FileStore} {path : Path} {item : StoreItem}

theorem contentAt?_congr {place : Path} (h : later.get? place = store.get? place) :
    later.contentAt? place = store.contentAt? place := by
  unfold contentAt?
  rw [h]

theorem get?_of_ne_nil (hpath : path ≠ []) : store.get? path = store.items.lookup path := by
  unfold get?
  rw [if_neg (by simpa using hpath)]

theorem lookup_filter_ne (items : List (Path × StoreItem)) (path place : Path) :
    (items.filter (·.1 != path)).lookup place = if place = path then none else items.lookup place := by
  induction items with
  | nil => simp
  | cons e items ih =>
    obtain ⟨key, item⟩ := e
    by_cases hkey : key = path
    · have hfilter : ((key, item) :: items).filter (·.1 != path) = items.filter (·.1 != path) := by
        simp [hkey]
      rw [hfilter, ih]
      by_cases hplace : place = path
      · rw [if_pos hplace, if_pos hplace]
      · rw [if_neg hplace, if_neg hplace, List.lookup_cons,
          beq_false_of_ne fun heq => hplace (heq.trans hkey)]
    · have hfilter : ((key, item) :: items).filter (·.1 != path) =
          (key, item) :: items.filter (·.1 != path) := by
        simp [hkey]
      rw [hfilter, List.lookup_cons, List.lookup_cons, ih]
      by_cases hplace : place = path
      · rw [if_pos hplace, if_pos hplace, beq_false_of_ne fun heq => hkey (heq.symm.trans hplace)]
      · rw [if_neg hplace, if_neg hplace]

/-- Nothing stands at a path after its removal, and the rest stays. -/
theorem get?_erase (hpath : path ≠ []) (place : Path) :
    (store.erase path).get? place = if place = path then none else store.get? place := by
  by_cases hnil : place = []
  · rw [hnil, if_neg (Ne.symm hpath)]
    rfl
  · rw [get?_of_ne_nil hnil, get?_of_ne_nil hnil]
    exact lookup_filter_ne store.items path place

/-- An item stands at the path that it is put at, and the rest stays. -/
theorem get?_put (hpath : path ≠ []) (place : Path) :
    (store.put path item).get? place = if place = path then some item else store.get? place := by
  by_cases hnil : place = []
  · rw [hnil, if_neg (Ne.symm hpath)]
    rfl
  · have hcons : (store.put path item).get? place =
        match place == path with
        | true => some item
        | false => (store.erase path).get? place := by
      rw [get?_of_ne_nil hnil, get?_of_ne_nil hnil]
      exact List.lookup_cons
    rw [hcons]
    by_cases hplace : place = path
    · rw [if_pos hplace, hplace, beq_self_eq_true]
    · rw [if_neg hplace, beq_false_of_ne hplace, get?_erase hpath, if_neg hplace]

/-! ### Fresh paths -/

theorem freshPath_ne_nil (store : FileStore) (directory : Path) :
    store.freshPath directory ≠ [] := by
  simp [freshPath]

/-- **Nothing stands at a fresh path.** -/
theorem get?_freshPath (store : FileStore) (directory : Path) :
    store.get? (store.freshPath directory) = none := by
  rw [get?_of_ne_nil (freshPath_ne_nil store directory), List.lookup_eq_none_iff]
  intro e he
  rw [bne_iff_ne]
  intro heq
  -- No name in the store is as long as the one of the fresh path.
  have hlong : e.1.fileName.length ≤ store.longestName := by
    unfold longestName
    rw [List.foldl_max]
    have hmem := List.mem_map_of_mem (f := fun e => e.1.fileName.length) he
    exact Nat.le_trans (List.le_max?_getD_of_mem hmem) (Nat.le_max_right 0 _)
  have hname : e.1.fileName.length = store.longestName + 1 := by
    rw [← heq]
    simp [freshPath, Path.fileName]
  omega

/-! ### Further directories -/

/-- A store with further directories where nothing stood, and nothing else. -/
def AddsDirectories (store later : FileStore) : Prop :=
  ∀ place, later.get? place = store.get? place ∨
    store.get? place = none ∧ later.get? place = some .directory

theorem AddsDirectories.refl (store : FileStore) : store.AddsDirectories store :=
  fun _ => Or.inl rfl

theorem AddsDirectories.trans {last : FileStore} (h : store.AddsDirectories later)
    (hlast : later.AddsDirectories last) : store.AddsDirectories last := by
  intro place
  rcases hlast place with heq | ⟨hnone, hdirectory⟩
  · rw [heq]
    exact h place
  · rcases h place with heq | ⟨-, hfirst⟩
    · exact Or.inr ⟨heq ▸ hnone, hdirectory⟩
    · rw [hfirst] at hnone
      cases hnone

/-- Further directories leave every file as it is. -/
theorem AddsDirectories.contentAt? (h : store.AddsDirectories later) (place : Path) :
    later.contentAt? place = store.contentAt? place := by
  rcases h place with heq | ⟨hnone, hdirectory⟩
  · exact contentAt?_congr heq
  · unfold FileStore.contentAt?
    rw [hnone, hdirectory]

/-- Directories stay. -/
theorem AddsDirectories.directory (h : store.AddsDirectories later) {place : Path}
    (hplace : store.get? place = some .directory) : later.get? place = some .directory := by
  rcases h place with heq | ⟨-, hdirectory⟩
  · rw [heq, hplace]
  · exact hdirectory

theorem addsDirectories_put (hpath : store.get? path = none) :
    store.AddsDirectories (store.put path .directory) := by
  have hne : path ≠ [] := by
    rintro rfl
    cases hpath
  intro place
  rw [get?_put hne]
  by_cases hplace : place = path
  · rw [if_pos hplace, hplace]
    exact Or.inr ⟨hpath, rfl⟩
  · rw [if_neg hplace]
    exact Or.inl rfl

/-- What is found at a name is what stands where it leads. -/
theorem find_eq_ok_iff {base : Path} {name : String} {found : Option StoreItem} :
    store.find base name = .ok found ↔
      Path.isLong name = false ∧ store.get? (base.step name) = found := by
  unfold find
  split
  · next hlong => simp [hlong]
  · next hshort =>
    rw [Except.ok.injEq]
    exact ⟨fun h => ⟨by simpa using hshort, h⟩, And.right⟩

theorem addsDirectories_makeEach (store : FileStore) (base : Path) (names : List String) :
    store.AddsDirectories (store.makeEach base names).2 := by
  induction names generalizing store base with
  | nil => exact .refl store
  | cons name names ih =>
    unfold makeEach
    split
    · exact .refl store
    · exact .refl store
    · exact ih store _
    · next hnone =>
      exact (addsDirectories_put (find_eq_ok_iff.mp hnone).2).trans (ih _ _)

theorem addsDirectories_makeFrom (store : FileStore) (base : Path) (names : List String) :
    store.AddsDirectories (store.makeFrom base names).2 := by
  induction names generalizing base with
  | nil => exact .refl store
  | cons name names ih =>
    unfold makeFrom
    split
    · exact .refl store
    · exact ih _
    · exact addsDirectories_makeEach store base _

/-- **Making a directory adds directories and nothing else**, whether it succeeds or not. -/
theorem addsDirectories_makeDirectory (store : FileStore) (path : Path) :
    store.AddsDirectories (store.makeDirectory path).2 := by
  unfold makeDirectory
  split
  · exact .refl store
  · exact addsDirectories_makeFrom store [] path

/-! ### The way to a directory -/

/-- Names that lead from directory to directory. -/
def Leads (store : FileStore) (base : Path) : List String → Prop
  | [] => True
  | name :: names =>
    store.find base name = .ok (some .directory) ∧ store.Leads (base.step name) names

/-- The way stays where directories stay. -/
theorem Leads.mono {names : List String} {base : Path} (h : store.Leads base names)
    (hlater : ∀ place, store.get? place = some .directory → later.get? place = some .directory) :
    later.Leads base names := by
  induction names generalizing base with
  | nil => trivial
  | cons name names ih =>
    obtain ⟨hfind, hrest⟩ := h
    obtain ⟨hshort, hget⟩ := find_eq_ok_iff.mp hfind
    exact ⟨find_eq_ok_iff.mpr ⟨hshort, hlater _ hget⟩, ih hrest⟩

/-- The way of names leads to a directory. -/
theorem Leads.get? {names : List String} {base : Path} (h : store.Leads base names)
    (hbase : store.get? base = some .directory) :
    store.get? (names.foldl Path.step base) = some .directory := by
  induction names generalizing base with
  | nil => exact hbase
  | cons name names ih => exact ih h.2 (find_eq_ok_iff.mp h.1).2

theorem follow_cons {base : Path} {name : String} {names : List String}
    (hfind : store.find base name = .ok (some .directory)) (hne : names ≠ []) :
    store.follow base (name :: names) = store.follow (base.step name) names := by
  obtain ⟨second, rest, rfl⟩ := List.exists_cons_of_ne_nil hne
  conv_lhs => rw [follow.eq_def]
  simp only [hfind]

/-- After names that lead from directory to directory, a path goes on from the last one. -/
theorem follow_append {names : List String} {base : Path} (h : store.Leads base names)
    (name : String) : store.follow base (names ++ [name]) =
      store.follow (names.foldl Path.step base) [name] := by
  induction names generalizing base with
  | nil => rfl
  | cons first names ih =>
    rw [List.cons_append, follow_cons h.1 (by simp), List.foldl_cons]
    exact ih h.2

theorem leads_makeEach {base directory : Path} {names : List String}
    (h : (store.makeEach base names).1 = .ok directory) :
    directory = names.foldl Path.step base ∧ (store.makeEach base names).2.Leads base names := by
  induction names generalizing store base with
  | nil => exact ⟨(Except.ok.inj h).symm, trivial⟩
  | cons name names ih =>
    unfold makeEach at h ⊢
    split at h
    · cases h
    · cases h
    · next hdirectory =>
      obtain ⟨hplace, hleads⟩ := ih h
      obtain ⟨hshort, hget⟩ := find_eq_ok_iff.mp hdirectory
      have hstays := (addsDirectories_makeEach store (base.step name) names).directory hget
      exact ⟨hplace, find_eq_ok_iff.mpr ⟨hshort, hstays⟩, hleads⟩
    · next hnone =>
      obtain ⟨hplace, hleads⟩ := ih h
      obtain ⟨hshort, hget⟩ := find_eq_ok_iff.mp hnone
      have hne : base.step name ≠ [] := by
        intro hnil
        rw [hnil] at hget
        cases hget
      have hmade : (store.put (base.step name) .directory).get? (base.step name) =
          some .directory := by
        rw [get?_put hne, if_pos rfl]
      have hstays := (addsDirectories_makeEach _ (base.step name) names).directory hmade
      exact ⟨hplace, find_eq_ok_iff.mpr ⟨hshort, hstays⟩, hleads⟩

theorem leads_makeFrom {base directory : Path} {names : List String}
    (h : (store.makeFrom base names).1 = .ok directory) :
    directory = names.foldl Path.step base ∧ (store.makeFrom base names).2.Leads base names := by
  induction names generalizing base with
  | nil => exact ⟨(Except.ok.inj h).symm, trivial⟩
  | cons name names ih =>
    unfold makeFrom at h ⊢
    split at h
    · cases h
    · next hdirectory =>
      obtain ⟨hplace, hleads⟩ := ih h
      obtain ⟨hshort, hget⟩ := find_eq_ok_iff.mp hdirectory
      refine ⟨hplace, find_eq_ok_iff.mpr ⟨hshort, ?_⟩, hleads⟩
      exact (addsDirectories_makeFrom store (base.step name) _).directory hget
    · exact leads_makeEach h

/-- **A directory that was made is where its path leads**, and directories stand all the way. -/
theorem leads_makeDirectory {directory : Path}
    (h : (store.makeDirectory path).1 = .ok directory) :
    directory = path.place ∧ path.hasNull = false ∧
      (store.makeDirectory path).2.Leads [] path := by
  unfold makeDirectory at h ⊢
  by_cases hnull : path.hasNull = true
  · rw [if_pos hnull] at h
    cases h
  · rw [if_neg hnull] at h ⊢
    obtain ⟨hplace, hleads⟩ := leads_makeFrom h
    exact ⟨hplace, by simpa using hnull, hleads⟩

/-! ### Writing -/

/-- What is left of a fresh file that was removed again: nothing. -/
theorem get?_erase_put_freshPath (directory place : Path) :
    ((store.put (store.freshPath directory) item).erase (store.freshPath directory)).get? place =
      store.get? place := by
  have hne := freshPath_ne_nil store directory
  rw [get?_erase hne, get?_put hne]
  by_cases hplace : place = store.freshPath directory
  · rw [if_pos hplace, hplace, get?_freshPath]
  · rw [if_neg hplace, if_neg hplace]

/-- Bytes that are not written in their directory leave everything as it is. -/
theorem get?_writeBytesIn_of_error {directory : Path} {name : String} {content : ByteArray}
    {fault : Fault} (h : (store.writeBytesIn directory name content).1 = .error fault)
    (place : Path) : (store.writeBytesIn directory name content).2.get? place = store.get? place := by
  unfold writeBytesIn at h ⊢
  dsimp only at h ⊢
  split at h
  · cases h
  · exact get?_erase_put_freshPath directory place

/-- Nor does a file change anything that is not written in its directory. -/
theorem get?_writeIn_of_error {directory : Path} {name text : String} {fault : Fault}
    (h : (store.writeIn directory name text).1 = .error fault) (place : Path) :
    (store.writeIn directory name text).2.get? place = store.get? place := by
  unfold writeIn at h ⊢
  split at h
  · exact get?_writeBytesIn_of_error h place
  · exact get?_erase_put_freshPath directory place

/-- A fresh file is no directory, so directories are where they were. -/
theorem get?_put_freshPath_iff {directory place : Path} {content : ByteArray} :
    (store.put (store.freshPath directory) (.file content)).get? place = some .directory ↔
      store.get? place = some .directory := by
  rw [get?_put (freshPath_ne_nil store directory)]
  by_cases hplace : place = store.freshPath directory
  · rw [if_pos hplace, hplace, get?_freshPath]
    simp
  · rw [if_neg hplace]

theorem replace_of_directory {source target : Path} (content : ByteArray)
    (h : store.get? target = some .directory) :
    store.replace source target content = .error .isDirectory := by
  unfold replace
  rw [h]

theorem replace_of_ne_directory {source target : Path} (content : ByteArray)
    (h : store.get? target ≠ some .directory) :
    store.replace source target content = .ok ((store.erase source).put target (.file content)) := by
  unfold replace
  split
  · next hdirectory => exact absurd hdirectory h
  · rfl

/-- Bytes that are written in their directory have a name that can be found, and take the place that
their name leads to; everything else stays as it is. -/
theorem writeBytesIn_of_ok {directory : Path} {name : String} {content : ByteArray}
    (hdirectory : store.get? directory = some .directory)
    (h : (store.writeBytesIn directory name content).1 = .ok ()) :
    name ≠ "" ∧ Path.hasNull [name] = false ∧ Path.isLong name = false ∧
      store.get? (directory.step name) ≠ some .directory ∧
      ∀ place, (store.writeBytesIn directory name content).2.get? place =
        if place = directory.step name then some (.file content) else store.get? place := by
  -- Each check that fails ends the write with a fault, so that all of them have passed.
  unfold writeBytesIn at h ⊢
  dsimp only at h ⊢
  by_cases hdots : name = ".."
  · rw [if_pos hdots] at h
    cases h
  rw [if_neg hdots] at h ⊢
  by_cases hnull : Path.hasNull [name] = true
  · rw [if_pos hnull] at h
    cases h
  rw [if_neg hnull] at h ⊢
  by_cases hlong : Path.isLong name = true
  · rw [if_pos hlong] at h
    cases h
  rw [if_neg hlong] at h ⊢
  by_cases hname : name = ""
  · -- Without a name the place is that of the directory itself.
    rw [if_pos hname, List.append_nil,
      replace_of_directory _ (get?_put_freshPath_iff.mpr hdirectory)] at h
    cases h
  have hstep : directory ++ [name] = directory.step name := by
    unfold Path.step
    rw [if_neg hdots]
  have hne : directory.step name ≠ [] := by
    rw [← hstep]
    simp
  rw [if_neg hname, hstep] at h ⊢
  by_cases htarget : store.get? (directory.step name) = some .directory
  · rw [replace_of_directory _ (get?_put_freshPath_iff.mpr htarget)] at h
    cases h
  · refine ⟨hname, by simpa using hnull, by simpa using hlong, htarget, fun place => ?_⟩
    rw [replace_of_ne_directory _ (mt get?_put_freshPath_iff.mp htarget)]
    dsimp only
    rw [get?_put hne, get?_erase_put_freshPath]

/-- A text that is written in a directory has bytes, and these are written there. -/
theorem writeIn_of_ok {directory : Path} {name text : String}
    (h : (store.writeIn directory name text).1 = .ok ()) :
    ∃ content, Text.bytes? text = some content ∧
      store.writeIn directory name text = store.writeBytesIn directory name content := by
  unfold writeIn at h ⊢
  cases hbytes : Text.bytes? text with
  | some content => exact ⟨content, rfl, rfl⟩
  | none =>
    rw [hbytes] at h
    cases h

/-- **A file that is not written changes no file.** -/
theorem contentAt?_write_of_error {text : String} {fault : Fault}
    (h : (store.write path text).1 = .error fault) (place : Path) :
    (store.write path text).2.contentAt? place = store.contentAt? place := by
  have hadds := addsDirectories_makeDirectory store path.parent
  unfold write at h ⊢
  split
  · next fault later hmade =>
    rw [hmade] at hadds
    exact hadds.contentAt? place
  · next directory later hmade =>
    rw [hmade] at hadds h
    rw [contentAt?_congr (get?_writeIn_of_error h place)]
    exact hadds.contentAt? place

/-- What is there after a file was written: the way to it, the file, and the rest as it was but for
further directories. -/
structure Wrote (store later : FileStore) (path : Path) (content : ByteArray) : Prop where
  /-- The path has a last name. -/
  isNamed : path = path.parent ++ [path.fileName]
  /-- It has no null character in it. -/
  hasNull : path.hasNull = false
  /-- The last name is not too long. -/
  isShort : Path.isLong path.fileName = false
  /-- Directories stand all the way to the file. -/
  leads : later.Leads [] path.parent
  /-- The file is the only one that changed. -/
  contentAt? : ∀ place, later.contentAt? place =
    if place = path.place then some content else store.contentAt? place

/-- **A file that is written changes no other one.** -/
theorem wrote_of_write {text : String} (h : (store.write path text).1 = .ok ()) :
    ∃ content, Text.bytes? text = some content ∧
      store.Wrote (store.write path text).2 path content := by
  have hadds := addsDirectories_makeDirectory store path.parent
  unfold write at h ⊢
  split
  · next fault later hmade =>
    rw [hmade] at h
    cases h
  · next directory later hmade =>
    have hsplit : (store.makeDirectory path.parent).1 = .ok directory := by rw [hmade]
    obtain ⟨rfl, hparent, hleads⟩ := leads_makeDirectory hsplit
    rw [hmade] at h hadds hleads
    dsimp only at h hadds hleads
    have hdirectory : later.get? path.parent.place = some .directory := hleads.get? rfl
    obtain ⟨content, hbytes, hwrite⟩ := writeIn_of_ok h
    rw [hwrite] at h ⊢
    obtain ⟨hname, hnull, hshort, hfree, hget⟩ := writeBytesIn_of_ok hdirectory h
    have hnamed : path = path.parent ++ [path.fileName] := by
      refine (List.dropLast_append_getLast? _ ?_).symm
      unfold Path.fileName at hname ⊢
      cases hlast : path.getLast? with
      | none => exact absurd (by rw [hlast]; rfl) hname
      | some name => rfl
    -- The file is at its place, and what was made for it was no file.
    have hplace := Path.place_eq_step hnamed
    rw [← hplace] at hfree hget
    refine ⟨content, hbytes, hnamed, ?_, hshort, ?_, fun place => ?_⟩
    · rw [hnamed]
      unfold Path.hasNull at hparent hnull ⊢
      rw [List.any_append, hparent, hnull]
      rfl
    · refine hleads.mono fun place hstands => ?_
      have hother : place ≠ path.place := by
        rintro rfl
        exact hfree hstands
      rw [hget, if_neg hother]
      exact hstands
    · by_cases heq : place = path.place
      · unfold FileStore.contentAt?
        rw [hget, if_pos heq, if_pos heq]
      · rw [if_neg heq, ← hadds.contentAt? place]
        exact contentAt?_congr ((hget place).trans (if_neg heq))

/-- A file that stands at a place is found on the way to it. -/
theorem content_of_leads (hnamed : path = path.parent ++ [path.fileName])
    (hnull : path.hasNull = false) (hshort : Path.isLong path.fileName = false)
    (hleads : store.Leads [] path.parent) {content : ByteArray}
    (hcontent : store.contentAt? path.place = some content) : store.content path = .ok content := by
  have hget : store.get? path.place = some (.file content) := by
    unfold FileStore.contentAt? at hcontent
    split at hcontent
    · next found hfound => rw [hfound, Option.some.inj hcontent]
    · cases hcontent
  have hplace := Path.place_eq_step hnamed
  have hfollow : store.follow [] path = .ok (.file content) := by
    rw [hnamed, follow_append hleads, follow.eq_def]
    have hfind : store.find (path.parent.foldl Path.step []) path.fileName =
        .ok (some (.file content)) := find_eq_ok_iff.mpr ⟨hshort, hplace ▸ hget⟩
    simp only [hfind]
  unfold FileStore.content
  rw [hnull, hfollow]
  rfl

/-- **A file that is written is read back.** -/
theorem Wrote.content {content : ByteArray} (h : store.Wrote later path content) :
    later.content path = .ok content := by
  refine content_of_leads h.isNamed h.hasNull h.isShort h.leads ?_
  rw [h.contentAt?, if_pos rfl]

/-- The text of a file is read when its bytes are those of the text. -/
theorem read_of_content {text : String} (h : store.content path = .ok text.toUTF8) :
    store.read path = .ok text := by
  have hdecoded : String.fromUTF8? text.toUTF8 = some text := dif_pos text.isValidUTF8
  refine Except.bind_eq_ok_iff.mpr ⟨text.toUTF8, h, ?_⟩
  rw [hdecoded]
  rfl

/-! ### Faults on the way -/

theorem abortsGeneration_find {base : Path} {name : String} {fault : Fault}
    (h : store.find base name = .error fault) : fault.abortsGeneration = false := by
  unfold find at h
  split at h
  · cases h
    rfl
  · cases h

theorem abortsGeneration_makeEach {base : Path} {names : List String} {fault : Fault}
    (h : (store.makeEach base names).1 = .error fault) : fault.abortsGeneration = false := by
  induction names generalizing store base with
  | nil => cases h
  | cons name names ih =>
    unfold makeEach at h
    split at h
    · next found hfind =>
      cases h
      exact abortsGeneration_find hfind
    · cases h
      rfl
    · exact ih h
    · exact ih h

theorem abortsGeneration_makeFrom {base : Path} {names : List String} {fault : Fault}
    (h : (store.makeFrom base names).1 = .error fault) : fault.abortsGeneration = false := by
  induction names generalizing base with
  | nil => cases h
  | cons name names ih =>
    unfold makeFrom at h
    split at h
    · cases h
      rfl
    · exact ih h
    · exact abortsGeneration_makeEach h

theorem abortsGeneration_writeBytesIn {directory : Path} {name : String} {content : ByteArray}
    {fault : Fault} (h : (store.writeBytesIn directory name content).1 = .error fault) :
    fault.abortsGeneration = false := by
  unfold writeBytesIn replace at h
  dsimp only at h
  split at h
  · cases h
  · next found hfound =>
    cases h
    split_ifs at hfound
    · cases hfound
      rfl
    · cases hfound
      rfl
    · cases hfound
      rfl
    all_goals
      split at hfound
      · cases hfound
        rfl
      · cases hfound

theorem abortsGeneration_writeIn {directory : Path} {name text : String} {fault : Fault}
    (h : (store.writeIn directory name text).1 = .error fault) :
    fault.abortsGeneration = false := by
  unfold writeIn at h
  split at h
  · exact abortsGeneration_writeBytesIn h
  · cases h
    rfl

/-- **No fault on the way is one of a reference.** -/
theorem abortsGeneration_write {text : String} {fault : Fault}
    (h : (store.write path text).1 = .error fault) : fault.abortsGeneration = false := by
  unfold write at h
  split at h
  · next found later hmade =>
    cases h
    unfold makeDirectory at hmade
    split at hmade
    · cases hmade
      rfl
    · exact abortsGeneration_makeFrom (congrArg Prod.fst hmade)
  · exact abortsGeneration_writeIn h

end FileStore

end ApiTools
