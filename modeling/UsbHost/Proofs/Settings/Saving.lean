import Mathlib.Data.List.TakeWhile
import UsbHost.Proofs.Toml.Integers
import UsbHost.Settings.Storage

/-! # Settings are loaded as they were saved

Settings are written as nine lines (`Settings.linesOf`), of which each is read as the
statement that it was written for, and from the statements come the settings again
(`Settings.ofText?_toText?`).  So settings survive on a disk on which their file can be
written, if their numbers are within the limits of TOML (`Settings.load_save`).  That
they are valid is only asked when they are loaded.
-/
namespace UsbHost

namespace Settings

open Toml Document

/-! ## The text of settings -/

/-- The numbers are within the limits of TOML. -/
structure IsInRange (s : Settings) : Prop where
  timeout : s.timeout.toNat ≤ 0x7fffffffffffffff
  capacity : s.capacity.toNat ≤ 0x7fffffffffffffff

theorem isWritable_iff {n : UInt64} : isWritable n ↔ n.toNat ≤ 0x7fffffffffffffff := by
  unfold isWritable greatestInteger
  rw [decide_eq_true_eq]
  omega

theorem isInRange_iff {s : Settings} :
    s.IsInRange ↔ (isWritable s.timeout && isWritable s.capacity) = true := by
  rw [Bool.and_eq_true, isWritable_iff, isWritable_iff]
  exact ⟨fun h => ⟨h.timeout, h.capacity⟩, fun h => ⟨h.1, h.2⟩⟩

/-- An item of a list on a line of its own. -/
def itemLine (s : String) : List Char :=
  [' ', ' ', ' ', ' '] ++ Quoted.write s.toList ++ [',', '\n']

/-- What stands between the brackets of a list of texts. -/
def itemsText : List String → List Char
  | [] => []
  | [s] => Quoted.write s.toList
  | items => '\n' :: items.flatMap itemLine

theorem toList_listText (items : List String) :
    (listText items).toList = '[' :: (itemsText items ++ [']']) := by
  match items with
  | [] => rfl
  | [s] => simp [listText, itemsText, quote]
  | s :: t :: items =>
    simp [listText, itemsText, itemLine, quote, String.toList_join, List.flatMap_map]
    rfl

/-- The line of a header. -/
def tableLine (name : String) : List Char × Option Statement :=
  ('[' :: (name.toList ++ [']', '\n']), some (.table [name]))

/-- The line of an entry. -/
def entryLine (name : String) (text : List Char) (v : Value) : List Char × Option Statement :=
  (name.toList ++ ' ' :: '=' :: ' ' :: (text ++ ['\n']), some (.entry [name] v))

/-- The lines of settings, and what they say. -/
def linesOf (s : Settings) : List (List Char × Option Statement) :=
  [tableLine "logging",
    entryLine "level" (Quoted.write s.level.toList) (.text s.level),
    (['\n'], none),
    tableLine "events",
    entryLine "handle_events_timeout_secs" (Nat.toDigits 10 s.timeout.toNat)
      (.integer s.timeout.toNat),
    (['\n'], none),
    tableLine "usb",
    entryLine "filters" ('[' :: (itemsText s.filters ++ [']'])) (.array (s.filters.map .text)),
    entryLine "worker_queue_capacity" (Nat.toDigits 10 s.capacity.toNat)
      (.integer s.capacity.toNat)]

theorem toText?_eq (s : Settings) :
    s.toText? = if isWritable s.timeout && isWritable s.capacity then
      some (String.ofList (s.linesOf.flatMap (·.1))) else none := by
  unfold toText?
  split
  · refine congrArg some (String.toList_inj.mp ?_)
    simp [linesOf, tableLine, entryLine, toList_listText, quote, toString, Nat.repr]
  · rfl

/-! ## Its lines -/

theorem isLine_tableLine {name : String} (hne : name.toList ≠ [])
    (hname : name.toList.all isBare) : IsLine (tableLine name).1 (tableLine name).2 := by
  have hline := isLine_table hne (List.all_eq_true.mp hname)
  rwa [String.ofList_toList] at hline

theorem isLine_entryLine {name : String} {text : List Char} {v : Value} (hne : name.toList ≠ [])
    (hname : name.toList.all isBare)
    (hstart : ∃ c cs, text = c :: cs ∧ Quoted.isBlank c = false)
    (h : ∀ more, value depthLimit (text ++ '\n' :: more) = some (v, '\n' :: more)) :
    IsLine (entryLine name text v).1 (entryLine name text v).2 := by
  obtain ⟨c, cs, rfl, hc⟩ := hstart
  have hline := isLine_entry hne (List.all_eq_true.mp hname) hc h
  rwa [String.ofList_toList] at hline

theorem value_write (s : String) (more : List Char) :
    value depthLimit (Quoted.write s.toList ++ '\n' :: more) = some (.text s, '\n' :: more) := by
  have hclear : Quoted.Clear ('\n' :: more) := by simp [Quoted.Clear]
  have hread := value_text depthLimit s.toList hclear
  rwa [String.ofList_toList] at hread

theorem value_itemsText (items : List String) (more : List Char) :
    value depthLimit ('[' :: (itemsText items ++ [']']) ++ '\n' :: more) =
      some (.array (items.map .text), '\n' :: more) := by
  have hitem (s : String) : IsItem (value 78) (Quoted.write s.toList) (.text s) := by
    have h := isItem_write 78 s.toList
    rwa [String.ofList_toList] at h
  show value (78 + 1) ('[' :: ((itemsText items ++ [']']) ++ '\n' :: more)) = _
  rw [value_array, array, Reader.bind_apply, Reader.get_apply, Option.bind_some,
    Reader.bind_apply, List.append_assoc]
  have hitems : Document.items (value 78)
      ((itemsText items ++ ([']'] ++ '\n' :: more)).length + 1)
      (itemsText items ++ ([']'] ++ '\n' :: more)) =
      some (items.map .text, '\n' :: more) := by
    match items with
    | [] => exact items_close [] nofun _
    | [s] => exact items_last (hitem s) _
    | s :: t :: items =>
      refine items_lines (fun s _ => hitem s) ?_ _
      have hcount := length_le_flatMap (f := itemLine) (s :: t :: items) (by simp [itemLine])
      rw [itemsText]
      · simp only [List.length_append, List.length_cons] at *
        omega
      · nofun
      · nofun
  rw [hitems]
  rfl

theorem isLine_linesOf {s : Settings} (h : s.IsInRange) :
    ∀ part ∈ s.linesOf, IsLine part.1 part.2 := by
  have hquoted (text : List Char) :
      ∃ c cs, Quoted.write text = c :: cs ∧ Quoted.isBlank c = false := by
    obtain ⟨q, more, hwrite, rfl | rfl⟩ := exists_write text
    · exact ⟨_, _, hwrite, rfl⟩
    · exact ⟨_, _, hwrite, rfl⟩
  have hdigits (n : Nat) : ∃ c cs, Nat.toDigits 10 n = c :: cs ∧ Quoted.isBlank c = false := by
    obtain ⟨c, cs, heq⟩ := List.exists_cons_of_ne_nil (Nat.toDigits_ne_nil (n := n) (b := 10))
    refine ⟨c, cs, heq, not_blank_of_bare ?_⟩
    have hc : c.isDigit = true := Text.isDigit_toDigits n c (heq ▸ .head _)
    simp [isBare, Char.isAlphanum, hc]
  have hlimit {n : Nat} (hn : n ≤ 0x7fffffffffffffff) : (n : Int) ≤ greatestInteger := by
    unfold greatestInteger
    omega
  intro part hpart
  simp only [linesOf, List.mem_cons, List.not_mem_nil, or_false] at hpart
  rcases hpart with rfl | rfl | rfl | rfl | rfl | rfl | rfl | rfl | rfl
  · exact isLine_tableLine (by decide) (by decide)
  · exact isLine_entryLine (by decide) (by decide) (hquoted _) (value_write s.level)
  · exact isLine_empty
  · exact isLine_tableLine (by decide) (by decide)
  · exact isLine_entryLine (by decide) (by decide) (hdigits _)
      (value_toDigits _ (hlimit h.timeout))
  · exact isLine_empty
  · exact isLine_tableLine (by decide) (by decide)
  · exact isLine_entryLine (by decide) (by decide) ⟨_, _, rfl, rfl⟩ (value_itemsText s.filters)
  · exact isLine_entryLine (by decide) (by decide) (hdigits _)
      (value_toDigits _ (hlimit h.capacity))

/-! ## What it says -/

theorem parse_linesOf {s : Settings} (h : s.IsInRange) :
    parse (String.ofList (s.linesOf.flatMap (·.1))) =
      some [("logging", .table [("level", .text s.level)]),
        ("events", .table [("handle_events_timeout_secs", .integer s.timeout.toNat)]),
        ("usb", .table [("filters", .array (s.filters.map .text)),
          ("worker_queue_capacity", .integer s.capacity.toNat)])] := by
  have hread := statements_flatMap (isLine_linesOf h) nofun (by simp [linesOf, tableLine, mark])
  rw [parse, String.toList_ofList, hread]
  rfl

/-- **Settings are read as they were written.** -/
theorem ofText?_toText? {s : Settings} (h : s.IsInRange) :
    s.toText?.bind ofText? = some s := by
  have htexts : texts? (.array (s.filters.map .text)) = some s.filters := by
    rw [texts?]
    generalize s.filters = filters
    induction filters with
    | nil => rfl
    | cons f filters ih =>
      rw [List.map_cons, List.mapM_cons, ih]
      rfl
  rw [toText?_eq, if_pos (isInRange_iff.mp h), Option.bind_some, ofText?, parse_linesOf h,
    Option.bind_some]
  have hnatural (n : UInt64) : natural? (.integer n.toNat) = some n := by
    show some (UInt64.ofNat n.toNat) = some n
    rw [UInt64.ofNat_toNat]
  simp [ofTable, field?, List.lookup_cons, orDefault, text?, hnatural, htexts]

theorem toText?_eq_none {s : Settings} (h : ¬ s.IsInRange) : s.toText? = none := by
  rw [toText?_eq, if_neg fun hwritable => h (isInRange_iff.mpr hwritable)]

end Settings

/-! ## Files -/

namespace Path

theorem length_parentChars {path : List Char} (h : ¬ path.all (· = '/')) :
    (parentChars path).length < path.length := by
  have hshorter (p : Char → Bool) (cs : List Char) : (cs.dropWhile p).length ≤ cs.length :=
    (List.dropWhile_suffix p).length_le
  -- The last part has a character that is no slash.
  have hlast := List.head?_dropWhile_not (· = '/') path.reverse
  rw [parentChars]
  cases hback : path.reverse.dropWhile (· = '/') with
  | nil =>
    have hall := List.all_eq_true.mpr fun c hc =>
      List.dropWhile_eq_nil_iff.mp hback c (List.mem_reverse.mpr hc)
    exact absurd hall h
  | cons c back =>
    rw [hback] at hlast
    have hlength := hshorter (· = '/') path.reverse
    have hc : (decide (c ≠ '/')) = true := by simpa using hlast
    rw [hback, List.length_cons, List.length_reverse] at hlength
    rw [List.dropWhile_cons, if_pos hc, List.length_reverse]
    exact Nat.lt_of_le_of_lt (Nat.le_trans (hshorter _ _) (hshorter _ _)) hlength

/-- What is above a path is shorter. -/
theorem length_parent {path parent : String} (h : parent? path = some parent) :
    parent.length < path.length := by
  unfold parent? at h
  split at h
  · cases h
  · case isFalse hroot =>
    have hsome : ¬ path.toList.all (· = '/') := by simpa using hroot
    have hlength := length_parentChars hsome
    dsimp only at h
    split at h
    · case isTrue habsolute =>
      cases h
      rw [Bool.and_eq_true] at habsolute
      obtain ⟨more, hmore⟩ := String.startsWith_string_iff.mp habsolute.2
      rw [← hmore] at hroot
      rw [← String.length_toList, ← String.length_toList, ← hmore]
      cases more with
      | nil => exact absurd rfl hroot
      | cons c more => simp
    · cases h
      rwa [← String.length_toList, ← String.length_toList, String.toList_ofList]

theorem length_le_of_isAbove {above path : String} (h : isAbove above path) :
    above.length ≤ path.length := by
  have hjoin : above.length ≤ (join above "").length := by
    unfold join
    split
    · simp
    · simp
  have hle := (List.isPrefixOf_iff_prefix.mp h).length_le
  rw [String.length_toList, String.length_toList] at hle
  exact Nat.le_trans hjoin hle

/-- A tilde is at the start of no absolute path. -/
theorem expandHome_of_isAbsolute {path : String} (h : isAbsolute path) (home : String) :
    expandHome home path = path := by
  obtain ⟨more, hmore⟩ := String.startsWith_string_iff.mp h
  rw [expandHome, ← hmore]
  rfl

end Path

namespace Disk
variable {d : Disk} {path parent : String}

/-- A file can be written: it has a directory, or one can be made. -/
structure Writable (d : Disk) (path : String) : Prop where
  parent : ∃ parent, Path.parent? path = some parent ∧ ¬ d.isBlocked parent
  free : ¬ d.isDirectory path

theorem run_bind {α β : Type} (x : StateM Disk α) (f : α → StateM Disk β) (d : Disk) :
    (x >>= f).run d = (f (x.run d).1).run (x.run d).2 := rfl

/-- Making a directory does not put one where the file will be. -/
theorem isDirectory_cons (h : parent.length < path.length) (d : Disk) :
    ({ d with directories := parent :: d.directories } : Disk).isDirectory path =
      d.isDirectory path := by
  have hne : parent ≠ path := by
    rintro rfl
    exact Nat.lt_irrefl _ h
  have habove : Path.isAbove path parent = false := by
    rw [Bool.eq_false_iff]
    exact fun habove => absurd (Path.length_le_of_isAbove habove) (Nat.not_le.mpr h)
  simp [isDirectory, hne, habove]

theorem isDirectory_self (d : Disk) :
    ({ d with directories := path :: d.directories } : Disk).isDirectory path := by
  simp [isDirectory]

end Disk

namespace Settings
variable {d : Disk} {path : String} {s : Settings}

/-- Saving settings on a disk. -/
def saveOn (d : Disk) (path : String) (s : Settings) : Except SaveError Unit × Disk :=
  (save path s : StateM Disk _).run d

/-- Loading settings from a disk. -/
def loadFrom (d : Disk) (e : Environment) (path : String) : String × Except LoadError Settings :=
  ((load e path : StateM Disk _).run d).1

/-- What loading makes of settings that were read. -/
def checked (s : Settings) : Except LoadError Settings :=
  match s.validate with
  | .ok () => .ok s
  | .error e => .error (.invalid e)

/-- What is saved is then in the file. -/
theorem saveOn_written (writable : d.Writable path) {text : String} (h : s.toText? = some text) :
    (saveOn d path s).1 = .ok () ∧ (saveOn d path s).2.file? path = some text.toUTF8 := by
  obtain ⟨parent, hparent, hblocked⟩ := writable.parent
  -- The directory is made, and then the file can be written.
  have hmade : (Files.makeDirectory parent : StateM Disk Bool).run d =
      (true, { d with directories := parent :: d.directories }) := by
    show (if d.isBlocked parent then _ else _ : StateM Disk Bool).run d = _
    rw [if_neg hblocked]
    rfl
  have hfree := writable.free
  rw [← Disk.isDirectory_cons (Path.length_parent hparent)] at hfree
  have hwritten : (Files.write path text : StateM Disk Bool).run
      { d with directories := parent :: d.directories } =
      (true, { files := (path, text.toUTF8) :: d.files,
               directories := parent :: d.directories }) := by
    have hopen : (Disk.isDirectory { d with directories := parent :: d.directories } path ||
        !Disk.isDirectory { d with directories := parent :: d.directories }
          ((Path.parent? path).getD "/")) = false := by
      rw [hparent, Option.getD_some, Disk.isDirectory_self, Bool.eq_false_iff.mpr hfree]
      rfl
    show (if Disk.isDirectory { d with directories := parent :: d.directories } path || _ then _
      else _ : StateM Disk Bool).run _ = _
    rw [hopen]
    rfl
  have hrun : saveOn d path s = (.ok (),
      { files := (path, text.toUTF8) :: d.files, directories := parent :: d.directories }) := by
    unfold saveOn save
    rw [h, hparent]
    dsimp only
    rw [Disk.run_bind, hmade]
    show (do if ← Files.write path text then return .ok () else return .error (.refused path) :
      StateM Disk (Except SaveError Unit)).run _ = _
    rw [Disk.run_bind, hwritten]
    rfl
  rw [hrun]
  exact ⟨rfl, by simp [Disk.file?]⟩

theorem loadFrom_read (absolute : Path.isAbsolute path) (e : Environment) {text : String}
    (h : d.file? path = some text.toUTF8) (hs : ofText? text = some s) :
    loadFrom d e path = (path, s.checked) := by
  have htext : String.fromUTF8? text.toUTF8 = some text := by
    exact dif_pos text.isValidUTF8
  have hread : (Files.read path : StateM Disk _).run d = (some text.toUTF8, d) := by
    rw [← h]
    rfl
  have hfile : (loadFile path : StateM Disk _).run d = (s.checked, d) := by
    unfold loadFile checked
    rw [Disk.run_bind, hread]
    simp only [Option.bind_some, htext, hs]
    cases s.validate <;> rfl
  unfold loadFrom load
  rw [Path.expandHome_of_isAbsolute absolute, Disk.run_bind, hfile]
  rfl

/-- **Settings that were saved are loaded again, unless they are not valid.**  They are
saved exactly if both numbers are within the limits of TOML, and otherwise no file is
touched. -/
theorem load_save (absolute : Path.isAbsolute path) (writable : d.Writable path)
    (e : Environment) (s : Settings) :
    ((saveOn d path s).1 = .ok () ↔ s.IsInRange) ∧
    (¬ s.IsInRange → ∀ (m : Type → Type) [Monad m] [Files m],
      (save path s : m (Except SaveError Unit)) = pure (.error .unwritable)) ∧
    ((saveOn d path s).1 = .ok () →
      loadFrom (saveOn d path s).2 e path = (path, s.checked)) := by
  have hrefused : ¬ s.IsInRange → ∀ (m : Type → Type) [Monad m] [Files m],
      (save path s : m (Except SaveError Unit)) = pure (.error .unwritable) := by
    intro h m _ _
    unfold save
    rw [toText?_eq_none h]
  have hiff : (saveOn d path s).1 = .ok () ↔ s.IsInRange := by
    refine ⟨fun hsaved => ?_, fun h => ?_⟩
    · by_contra h
      rw [saveOn, hrefused h (StateM Disk)] at hsaved
      cases hsaved
    · obtain ⟨text, htext, -⟩ := Option.bind_eq_some_iff.mp (ofText?_toText? h)
      exact (saveOn_written writable htext).1
  refine ⟨hiff, hrefused, fun hsaved => ?_⟩
  obtain ⟨text, htext, hread⟩ := Option.bind_eq_some_iff.mp (ofText?_toText? (hiff.mp hsaved))
  exact loadFrom_read absolute e (saveOn_written writable htext).2 hread

/-- Settings with filters, and with the greatest number that can be saved. -/
def filtered : Settings where
  level := "debug"
  timeout := 5
  filters := ["0x1234:*", "*:0xabcd"]
  capacity := 0x7fffffffffffffff

/-- A file in a directory that is still to be made. -/
def filePath : String := "/home/shim.toml"

/-- Such settings survive on an empty disk. -/
theorem load_save_filtered :
    Path.isAbsolute filePath ∧ ({} : Disk).Writable filePath ∧
      (saveOn {} filePath filtered).1 = .ok () ∧
      loadFrom (saveOn {} filePath filtered).2 { home := "/home" } filePath =
        (filePath, .ok filtered) := by
  have absolute : Path.isAbsolute filePath := by decide +kernel
  have writable : ({} : Disk).Writable filePath :=
    ⟨⟨"/home", by decide +kernel, by simp [Disk.isBlocked]⟩, by decide +kernel⟩
  have hvalid : filtered.checked = .ok filtered := by decide +kernel
  obtain ⟨hiff, -, hload⟩ := load_save absolute writable { home := "/home" } filtered
  have hsaved := hiff.mpr ⟨by decide, by decide⟩
  exact ⟨absolute, writable, hsaved, hvalid ▸ hload hsaved⟩

end Settings

end UsbHost
