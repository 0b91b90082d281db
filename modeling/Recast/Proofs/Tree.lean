import Mathlib.Data.List.Basic
import Recast.Tree

/-! What writing does to a file tree. A path leads to one place, whatever is there, and a write
changes the entry at that place and no other. Directories are never written, so the way to every
other place stays open. -/

namespace Recast

namespace Place

def ofPath (path : Text) : Place := (Tree.stepsOf path).foldl follow (startOf path)

end Place

namespace Entry

def isDirectory : Entry → Bool
  | file _ => false
  | dir => true

end Entry

namespace Disk

def Covers (disk other : Disk) : Prop :=
  ∀ place text, other place text = none → disk place text = none

def refusing (path : Text) (cause : FileFault) : Disk :=
  fun place _ => if place = Place.ofPath path then some cause else none

end Disk

namespace Tree

theorem lookup_map_replaced (entries : List (Place × Entry)) (place other : Place) (entry : Entry) :
    (entries.map fun e => if e.1 = place then (place, entry) else e).lookup other =
      if other = place then (entries.lookup place).map fun _ => entry else entries.lookup other := by
  induction entries with
  | nil => simp
  | cons e more ih =>
    obtain ⟨key, old⟩ := e
    rw [List.map_cons]
    by_cases hk : key = place
    · subst key
      by_cases ho : other = place
      · simp [ho]
      · have hb : (other == place) = false := by simpa using ho
        simpa [List.lookup_cons, hb, ho] using ih
    · have hb : (place == key) = false := by simpa using Ne.symm hk
      by_cases ho : other = key
      · subst other
        simp [hk]
      · have hb' : (other == key) = false := by simpa using ho
        simpa [hk, List.lookup_cons, hb, hb'] using ih

theorem entry?_set (tree : Tree) (place other : Place) (entry : Entry) (h : place.names ≠ []) :
    entry? (tree.set place entry) other =
      if other = place then some entry else tree.entry? other := by
  have hroot : other.names.isEmpty = true → other ≠ place := by
    rintro ho rfl
    exact h (List.isEmpty_iff.mp ho)
  unfold entry?
  by_cases ho : other.names.isEmpty = true
  · simp [ho, hroot ho]
  · rw [if_neg ho, if_neg ho]
    unfold set
    cases hs : tree.entries.lookup place with
    | some old =>
      rw [Option.isSome_some, if_pos rfl]
      simpa [hs] using lookup_map_replaced tree.entries place other entry
    | none =>
      rw [Option.isSome_none, if_neg (by decide), List.lookup_append]
      by_cases he : other = place
      · subst other
        simp [hs]
      · have hb : (other == place) = false := by simpa using he
        simp [List.lookup_cons, hb, he]

theorem lookup_of_entry? {tree : Tree} {place : Place} {entry : Entry}
    (hnames : place.names ≠ []) (h : tree.entry? place = some entry) :
    tree.entries.lookup place = some entry := by
  unfold entry? at h
  rw [if_neg (by simpa using hnames)] at h
  exact h

/-- Two trees with directories and files at the same places, whatever the files hold. -/
def SameShape (tree tree' : Tree) : Prop :=
  ∀ place, (tree.entry? place).map Entry.isDirectory = (tree'.entry? place).map Entry.isDirectory

theorem SameShape.refl (tree : Tree) : SameShape tree tree := fun _ => rfl

theorem SameShape.trans {a b c : Tree} (h : SameShape a b) (k : SameShape b c) : SameShape a c :=
  fun place => (h place).trans (k place)

theorem walk_eq_foldl (tree : Tree) (names : List Text) :
    ∀ place found, tree.walk place names = .ok found → found = names.foldl Place.follow place := by
  induction names with
  | nil =>
    intro place found h
    exact (Except.ok.inj h).symm
  | cons name more ih =>
    intro place found h
    unfold walk at h
    split at h
    · cases h
    · cases h
    · split at h
      · cases h
      · exact ih _ _ h

theorem walk_append (tree : Tree) (names more : List Text) :
    ∀ place found, tree.walk place names = .ok found →
      tree.walk place (names ++ more) = tree.walk found more := by
  induction names with
  | nil =>
    intro place found h
    rw [← Except.ok.inj h]
    rfl
  | cons name names ih =>
    intro place found h
    rw [List.cons_append, walk]
    rw [walk] at h
    split at h
    · cases h
    · cases h
    · split at h
      · cases h
      · rename_i hlen
        rw [if_neg hlen]
        exact ih _ _ h

theorem find_ok {tree : Tree} {path : Text} {place : Place} {entry : Entry}
    (h : tree.find path = .ok (place, entry)) :
    place = Place.ofPath path ∧ tree.entry? place = some entry := by
  unfold find at h
  split at h
  · cases h
  · split at h
    · cases h
    · rename_i q hw
      split at h
      · cases h
      · rename_i e he
        obtain ⟨rfl, rfl⟩ := Prod.mk.inj (Except.ok.inj h)
        exact ⟨walk_eq_foldl tree _ _ _ hw, he⟩

theorem isFile_entry {tree : Tree} {path : Text} (h : tree.isFile path = true) :
    ∃ content, tree.entry? (Place.ofPath path) = some (.file content) := by
  unfold isFile at h
  split at h
  · rename_i place content hf
    obtain ⟨hp, he⟩ := find_ok hf
    exact ⟨content, hp ▸ he⟩
  · cases h

theorem read_ok_entry {tree : Tree} {path text : Text} (h : tree.read path = .ok text) :
    tree.entry? (Place.ofPath path) = some (.file (.text text)) := by
  unfold read at h
  split at h
  · cases h
  · cases h
  · cases h
  · rename_i place found hf
    obtain ⟨hp, he⟩ := find_ok hf
    rw [← Except.ok.inj h, ← hp]
    exact he

theorem isFile_of_read {tree : Tree} {path text : Text} (h : tree.read path = .ok text) :
    tree.isFile path = true := by
  unfold read at h
  unfold isFile
  split at h
  · cases h
  · cases h
  · cases h
  · rename_i hf
    rw [hf]

structure WritesInto (tree : Tree) (path : Text) (dir : Place) (name : Text) : Prop where
  sound : pathFault? path = none
  way : tree.walk (Place.startOf path) (Path.steps path).dropLast = .ok dir
  inside : tree.entry? dir = some .dir
  last : (Path.steps path).getLast? = some name
  noSlash : Path.endsInSlash path = false
  noDots : Place.isDots name = false
  fits : ¬maxName < Text.byteSize name
  free : tree.entry? (dir.child name) ≠ some .dir

theorem writePlace_eq_ok_iff {tree : Tree} {path : Text} {place : Place} :
    tree.writePlace path = .ok place ↔
      ∃ dir name, tree.WritesInto path dir name ∧ dir.child name = place := by
  constructor
  · intro h
    unfold writePlace at h
    split at h
    · cases h
    rename_i hsound
    dsimp only at h
    split at h
    · cases h
    rename_i dir hway
    split at h
    · cases h
    · cases h
    rename_i hinside
    split at h
    · cases h
    rename_i name hlast
    split at h
    · cases h
    rename_i hname
    split at h
    · cases h
    rename_i hfits
    obtain ⟨hslash, hdots⟩ : Path.endsInSlash path = false ∧ Place.isDots name = false := by
      simpa using hname
    split at h
    · cases h
    · rename_i he
      exact ⟨dir, name, ⟨hsound, hway, hinside, hlast, hslash, hdots, hfits, by simp [he]⟩,
        Except.ok.inj h⟩
    · rename_i he
      exact ⟨dir, name, ⟨hsound, hway, hinside, hlast, hslash, hdots, hfits, by simp [he]⟩,
        Except.ok.inj h⟩
  · rintro ⟨dir, name, writes, rfl⟩
    have hfree := writes.free
    unfold writePlace
    rw [writes.sound]
    simp only [writes.way, writes.inside, writes.last, writes.noSlash, writes.noDots, writes.fits,
      Bool.or_false, Bool.false_eq_true, if_false]
    split
    · contradiction
    · rfl
    · rfl

/-- Where a write goes is the place of its path, and there is no directory. The way to it is open,
so what is there is found by its path. -/
theorem writePlace_ok {tree : Tree} {path : Text} {place : Place}
    (h : tree.writePlace path = .ok place) :
    place = Place.ofPath path ∧ place.names ≠ [] ∧ tree.entry? place ≠ some .dir ∧
      (∀ entry, tree.entry? place = some entry → tree.find path = .ok (place, entry)) := by
  obtain ⟨dir, name, writes, rfl⟩ := writePlace_eq_ok_iff.mp h
  have hfollow : dir.follow name = dir.child name := by
    have hdots := writes.noDots
    unfold Place.isDots at hdots
    simp only [Bool.or_eq_false_iff, decide_eq_false_iff_not] at hdots
    simp [Place.follow, hdots.1, hdots.2]
  have hsteps : stepsOf path = (Path.steps path).dropLast ++ [name] := by
    unfold stepsOf
    rw [writes.noSlash]
    simpa using (List.dropLast_append_getLast? _ writes.last).symm
  have hwalk : tree.walk (Place.startOf path) (stepsOf path) = .ok (dir.child name) := by
    rw [hsteps, walk_append tree _ _ _ _ writes.way]
    unfold walk
    rw [writes.inside]
    simp only [writes.fits, if_false, hfollow]
    rfl
  refine ⟨walk_eq_foldl tree _ _ _ hwalk, by simp [Place.child], writes.free, fun entry he => ?_⟩
  unfold find
  simp only [writes.sound, hwalk, he]

theorem write_eq_ok_iff {disk : Disk} {tree tree' : Tree} {path text : Text} :
    tree.write disk path text = .ok tree' ↔
      ∃ place, tree.writePlace path = .ok place ∧ disk place text = none ∧
        tree' = tree.set place (.file (.text text)) := by
  unfold write
  cases hplace : tree.writePlace path with
  | error cause => simp
  | ok place => cases hdisk : disk place text <;> simp [hdisk, eq_comm]

theorem write_of_covers {disk other : Disk} (covers : disk.Covers other) {tree tree' : Tree}
    {path text : Text} (h : tree.write other path text = .ok tree') :
    tree.write disk path text = .ok tree' := by
  obtain ⟨place, hplace, htaken, htree⟩ := write_eq_ok_iff.mp h
  exact write_eq_ok_iff.mpr ⟨place, hplace, covers place text htaken, htree⟩

/-- A successful write puts the text at the place of its path and leaves every other place alone. -/
theorem entry?_write {disk : Disk} {tree tree' : Tree} {path text : Text}
    (h : tree.write disk path text = .ok tree') (place : Place) :
    tree'.entry? place =
      if place = Place.ofPath path then some (.file (.text text)) else tree.entry? place := by
  obtain ⟨q, hq, -, rfl⟩ := write_eq_ok_iff.mp h
  obtain ⟨hp, hn, -, -⟩ := writePlace_ok hq
  rw [entry?_set tree q place _ hn, hp]

theorem SameShape.of_write {disk : Disk} {tree tree' : Tree} {path text : Text}
    (hf : tree.isFile path = true) (h : tree.write disk path text = .ok tree') :
    SameShape tree tree' := by
  intro place
  rw [entry?_write h place]
  split
  · rename_i hp
    obtain ⟨content, he⟩ := isFile_entry hf
    rw [hp, he]
    rfl
  · rfl

def SameDirs (tree tree' : Tree) : Prop :=
  ∀ place, tree.entry? place = some .dir ↔ tree'.entry? place = some .dir

namespace SameDirs

variable {tree tree' : Tree}

theorem refl (tree : Tree) : SameDirs tree tree := fun _ => Iff.rfl

theorem symm (h : SameDirs tree tree') : SameDirs tree' tree := fun place => (h place).symm

theorem trans {a b c : Tree} (h : SameDirs a b) (k : SameDirs b c) : SameDirs a c :=
  fun place => (h place).trans (k place)

/-- A write never makes or removes a directory. -/
theorem of_write {disk : Disk} {path text : Text} (h : tree.write disk path text = .ok tree') :
    SameDirs tree tree' := by
  intro place
  have hentry := entry?_write h place
  obtain ⟨target, hplace, -, -⟩ := write_eq_ok_iff.mp h
  obtain ⟨htarget, -, hdir, -⟩ := writePlace_ok hplace
  by_cases hp : place = Place.ofPath path
  · rw [hentry, if_pos hp, hp, ← htarget]
    simpa using hdir
  · rw [hentry, if_neg hp]

theorem walk_ok (h : SameDirs tree tree') (names : List Text) :
    ∀ {place found : Place}, tree.walk place names = .ok found →
      tree'.walk place names = .ok found := by
  induction names with
  | nil => exact fun hw => hw
  | cons name more ih =>
    intro place found hw
    unfold walk at hw
    split at hw
    · cases hw
    · cases hw
    · rename_i hdir
      split at hw
      · cases hw
      · rename_i hlen
        unfold walk
        rw [(h place).mp hdir]
        simp only [hlen, if_false]
        exact ih hw

theorem find_ok (h : SameDirs tree tree') {path : Text}
    (he : tree'.entry? (Place.ofPath path) = tree.entry? (Place.ofPath path))
    {found : Place × Entry} (hf : tree.find path = .ok found) : tree'.find path = .ok found := by
  obtain ⟨at', entry'⟩ := found
  obtain ⟨hplace, hentry⟩ := Tree.find_ok hf
  unfold find at hf
  split at hf
  · cases hf
  · rename_i hfault
    split at hf
    · cases hf
    · rename_i place hwalk
      unfold find
      rw [hfault]
      simp only [h.walk_ok _ hwalk]
      split at hf
      · cases hf
      · rename_i entry hat
        obtain ⟨rfl, rfl⟩ := Prod.mk.inj (Except.ok.inj hf)
        have hat' : tree'.entry? place = some entry := by
          rw [hplace, he, ← hplace, hat]
        simp only [hat']

theorem find_ok_iff (h : SameDirs tree tree') {path : Text}
    (he : tree'.entry? (Place.ofPath path) = tree.entry? (Place.ofPath path))
    (found : Place × Entry) : tree'.find path = .ok found ↔ tree.find path = .ok found :=
  ⟨h.symm.find_ok he.symm, h.find_ok he⟩

theorem isFile_eq (h : SameDirs tree tree') {path : Text}
    (he : tree'.entry? (Place.ofPath path) = tree.entry? (Place.ofPath path)) :
    tree'.isFile path = tree.isFile path := by
  have hiff (tree : Tree) : tree.isFile path = true ↔
      ∃ place content, tree.find path = .ok (place, .file content) := by
    unfold isFile
    split <;> simp_all
  rw [Bool.eq_iff_iff, hiff, hiff]
  simp only [h.find_ok_iff he]

theorem has_eq (h : SameDirs tree tree') {path : Text}
    (he : tree'.entry? (Place.ofPath path) = tree.entry? (Place.ofPath path)) :
    tree'.has path = tree.has path := by
  have hiff (tree : Tree) : tree.has path = true ↔ ∃ found, tree.find path = .ok found := by
    unfold has
    split <;> simp_all
  rw [Bool.eq_iff_iff, hiff, hiff]
  simp only [h.find_ok_iff he]

theorem read_ok_iff (h : SameDirs tree tree') {path : Text}
    (he : tree'.entry? (Place.ofPath path) = tree.entry? (Place.ofPath path)) (text : Text) :
    tree'.read path = .ok text ↔ tree.read path = .ok text := by
  have hiff (tree : Tree) : tree.read path = .ok text ↔
      ∃ place, tree.find path = .ok (place, .file (.text text)) := by
    unfold read
    split <;> simp_all
  rw [hiff, hiff]
  simp only [h.find_ok_iff he]

theorem writePlace_ok (h : SameDirs tree tree') {path : Text} {place : Place}
    (hw : tree.writePlace path = .ok place) : tree'.writePlace path = .ok place := by
  obtain ⟨dir, name, writes, rfl⟩ := writePlace_eq_ok_iff.mp hw
  exact writePlace_eq_ok_iff.mpr ⟨dir, name,
    { sound := writes.sound
      way := h.walk_ok _ writes.way
      inside := (h dir).mp writes.inside
      last := writes.last
      noSlash := writes.noSlash
      noDots := writes.noDots
      fits := writes.fits
      free := fun hdir => writes.free ((h _).mpr hdir) }, rfl⟩

end SameDirs

theorem find_of_write {disk : Disk} {tree tree' : Tree} {path text : Text}
    (h : tree.write disk path text = .ok tree') :
    tree'.find path = .ok (Place.ofPath path, .file (.text text)) := by
  have hentry := (entry?_write h (Place.ofPath path)).trans (if_pos rfl)
  obtain ⟨place, hplace, -, -⟩ := write_eq_ok_iff.mp h
  obtain ⟨hp, -, -, hfind⟩ := writePlace_ok ((SameDirs.of_write h).writePlace_ok hplace)
  rw [← hp] at hentry ⊢
  exact hfind _ hentry

end Tree

end Recast
