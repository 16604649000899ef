/-
Loading the settings: which environments are accepted, what is reported of the others, and where each field comes from.

A `Variable` has a name, a kind of values, texts that stand for values (`Variable.Says`), a default, and its field in the
settings. One reader of a variable does what any other does (`Reads`): nothing if the variable is not set, the value if its
text stands for one, and a report of its name otherwise. Readers in a row give something made of all the values, or the report
of the first variable that cannot be read (`ReadsAll`): so there come of an environment the settings in which every field is
what its own variable says, or that report (`readsAll_read`), and never both. `settings_loaded` draws the conclusions; the last
of them is about the rows of the images that are read with the accepted settings.
-/
import Mathlib.Data.List.Forall2
import Mathlib.Order.Bounds.Basic
import MailboxCursor.Proofs.Settings.Numeral

namespace MailboxCursor

/-! ## Words in letters of either case -/

/-- `s` is the word `word`, each of its letters in lower or in upper case -/
def Spells (s word : List Char) : Prop :=
  List.Forall₂ (fun c l => c = l ∨ c = l.toUpper) s word

theorem isLower_iff {c : Char} : c.isLower = true ↔ 97 ≤ c.toNat ∧ c.toNat ≤ 122 := by
  show (decide ('a'.val ≤ c.val) && decide (c.val ≤ 'z'.val)) = true ↔ _
  rw [Bool.and_eq_true, decide_eq_true_eq, decide_eq_true_eq, UInt32.le_iff_toNat_le, UInt32.le_iff_toNat_le]
  rfl

theorem toNat_toLower (c : Char) : c.toLower.toNat = if 65 ≤ c.toNat ∧ c.toNat ≤ 90 then c.toNat + 32 else c.toNat := by
  split_ifs with hupper
  · have hval : c.toLower.val = c.val + 32 := congrArg Char.val (dif_pos hupper)
    show c.toLower.val.toNat = c.toNat + 32
    rw [hval, UInt32.toNat_add]
    exact Nat.mod_eq_of_lt (show c.toNat + 32 < 2 ^ 32 by omega)
  · exact congrArg Char.toNat (dif_neg hupper)

theorem toNat_toUpper {c : Char} (h : c.isLower = true) : c.toUpper.toNat + 32 = c.toNat := by
  obtain ⟨hlow, hhigh⟩ : 97 ≤ c.val.toNat ∧ c.val.toNat ≤ 122 := isLower_iff.1 h
  have hlower : 'a'.val ≤ c.val ∧ c.val ≤ 'z'.val := ⟨hlow, hhigh⟩
  have hupper : c.toUpper = _ := dif_pos hlower
  -- the distance between the cases is negative, so it is added as its complement
  have hdistance : ('A'.val - 'a'.val).toNat = 0xffffffe0 := by decide
  rw [hupper]
  show (c.val + ('A'.val - 'a'.val)).toNat + 32 = c.val.toNat
  rw [UInt32.toNat_add, hdistance]
  omega

theorem toLower_eq_iff {c l : Char} (hl : l.isLower = true) : c.toLower = l ↔ c = l ∨ c = l.toUpper := by
  have hrange := isLower_iff.1 hl
  have hlower := toNat_toLower c
  have hupper := toNat_toUpper hl
  rw [← Char.toNat_inj, ← Char.toNat_inj, ← Char.toNat_inj]
  split_ifs at hlower with hc
  · omega
  · omega

/-- Letters made lower are a word of lower-case letters exactly if they spell it. -/
theorem foldCase_eq_iff {s word : List Char} (hword : ∀ l ∈ word, l.isLower = true) :
    CursorSettings.foldCase s = word ↔ Spells s word := by
  unfold CursorSettings.foldCase
  induction word generalizing s with
  | nil => rw [Spells, List.map_eq_nil_iff, List.forall₂_nil_right_iff]
  | cons l word ih =>
    cases s with
    | nil => exact iff_of_false (by simp) (by simp [Spells])
    | cons c s =>
      have hhead := toLower_eq_iff (c := c) (hword l (List.mem_cons_self ..))
      have hrest := ih (s := s) fun l' hl' => hword l' (List.mem_cons_of_mem _ hl')
      rw [Spells, List.forall₂_cons, ← hhead, ← Spells, ← hrest, List.map_cons, List.cons.injEq]

/-! ## Texts that stand for values -/

/-- how an order is written in a setting -/
def BitOrder.word : BitOrder → List Char
  | lsbFirst => ['l', 's', 'b']
  | msbFirst => ['m', 's', 'b']

/-- the text is the word for the order `o`, white space at its ends and the case of its letters aside -/
def SaysOrder (text : String) (o : BitOrder) : Prop :=
  ∃ s, Blank.Stripped text.toList s ∧ Spells s o.word

/-- the text is a numeral of the word `w`, white space at its ends aside -/
def SaysWord (text : String) (w : UInt32) : Prop :=
  ∃ s, Blank.Stripped text.toList s ∧ Numeral.Denotes s w.toNat

theorem saysOrder_iff {text : String} {o : BitOrder} :
    SaysOrder text o ↔ CursorSettings.foldCase (Blank.trim text.toList) = o.word := by
  have hword : ∀ l ∈ o.word, l.isLower = true := by
    cases o <;> simp [BitOrder.word]
  rw [foldCase_eq_iff hword]
  constructor
  · rintro ⟨s, hs, h⟩
    rwa [← hs.eq_trim]
  · exact fun h => ⟨_, Blank.stripped_trim _, h⟩

theorem saysWord_iff {text : String} {w : UInt32} : SaysWord text w ↔ Numeral.word? text.toList = some w := by
  rw [Numeral.word?_eq_some_iff]
  constructor
  · rintro ⟨s, hs, h⟩
    rwa [← hs.eq_trim]
  · exact fun h => ⟨_, Blank.stripped_trim _, h⟩

theorem saysOrder_unique {text : String} {o o' : BitOrder} (h : SaysOrder text o) (h' : SaysOrder text o') : o = o' := by
  have hword : o.word = o'.word := (saysOrder_iff.1 h).symm.trans (saysOrder_iff.1 h')
  cases o <;> cases o' <;> first | rfl | simp [BitOrder.word] at hword

theorem saysWord_unique {text : String} {w w' : UInt32} (h : SaysWord text w) (h' : SaysWord text w') : w = w' :=
  Option.some.inj ((saysWord_iff.1 h).symm.trans (saysWord_iff.1 h'))

/-- the variables that settings are read from -/
inductive Variable where
  | bitOrder
  | scanlinePad
  | device
  | major
  | minor
  | memDevice
  | minFirmware
deriving DecidableEq

namespace Variable

def name : Variable → String
  | bitOrder => "VC_CURSOR_BIT_ORDER"
  | scanlinePad => "VC_CURSOR_SCANLINE_PAD"
  | device => "VC_MAILBOX_DEVICE"
  | major => "VC_MAILBOX_MAJOR"
  | minor => "VC_MAILBOX_MINOR"
  | memDevice => "VC_MEM_DEVICE"
  | minFirmware => "VC_CURSOR_MIN_FIRMWARE"

abbrev Value : Variable → Type
  | bitOrder => BitOrder
  | device | memDevice => String
  | scanlinePad | major | minor | minFirmware => UInt32

/-- the text `text` of the variable stands for the value `a` -/
def Says : (v : Variable) → (text : String) → (a : v.Value) → Prop
  | bitOrder, text, o => SaysOrder text o
  | scanlinePad, text, pad => SaysWord text pad ∧ (pad = 8 ∨ pad = 16 ∨ pad = 32 ∨ pad = 64)
  | device, text, path | memDevice, text, path => path = text
  | major, text, w | minor, text, w | minFirmware, text, w => SaysWord text w

def default : (v : Variable) → v.Value
  | bitOrder => .lsbFirst
  | scanlinePad => (32 : UInt32)
  | device => "/dev/vc4mail"
  | major => (100 : UInt32)
  | minor => (0 : UInt32)
  | memDevice => "/dev/mem"
  | minFirmware => (1390809622 : UInt32)

/-- the variable's field in the settings -/
def field : (v : Variable) → CursorSettings → v.Value
  | bitOrder, s => s.layout.order
  | scanlinePad, s => s.layout.scanlinePad
  | device, s => s.mailbox.device
  | major, s => s.mailbox.major
  | minor, s => s.mailbox.minor
  | memDevice, s => s.mailbox.memDevice
  | minFirmware, s => s.minFirmware.val

/-- the variables that may be set to something that cannot be read, in the order of reading -/
def checked : List Variable :=
  [bitOrder, scanlinePad, major, minor, minFirmware]

variable (env : Environment)

/-- the variable is not set, or its text stands for a value -/
def Readable (v : Variable) : Prop :=
  ∀ text, env v.name = some text → ∃ a, v.Says text a

/-- `a` is what the variable's text stands for, and its default if it is not set -/
def Gives (v : Variable) (a : v.Value) : Prop :=
  match env v.name with
  | none => a = v.default
  | some text => v.Says text a

/-- `v` is the first variable, in the order of reading, that cannot be read -/
def FirstUnreadable (v : Variable) : Prop :=
  ∃ before after, checked = before ++ v :: after ∧ (∀ u ∈ before, u.Readable env) ∧ ¬v.Readable env

variable {env} {v : Variable}

theorem Says.unique {text : String} {a b : v.Value} (ha : v.Says text a) (hb : v.Says text b) : a = b := by
  cases v with
  | bitOrder => exact saysOrder_unique ha hb
  | scanlinePad => exact saysWord_unique ha.1 hb.1
  | device | memDevice => exact ha.trans hb.symm
  | major | minor | minFirmware => exact saysWord_unique ha hb

theorem Gives.unique {a b : v.Value} (ha : v.Gives env a) (hb : v.Gives env b) : a = b := by
  unfold Gives at ha hb
  cases htext : env v.name with
  | none =>
    rw [htext] at ha hb
    exact ha.trans hb.symm
  | some text =>
    rw [htext] at ha hb
    exact Says.unique ha hb

theorem Gives.readable {a : v.Value} (h : v.Gives env a) : v.Readable env := by
  intro text htext
  rw [Gives, htext] at h
  exact ⟨a, h⟩

/-- Of the variables that cannot be read only one is the first. -/
theorem FirstUnreadable.unique {u : Variable} (hu : u.FirstUnreadable env) (hv : v.FirstUnreadable env) : u = v := by
  classical
  have hfind : ∀ w : Variable, w.FirstUnreadable env → checked.find? (fun w => ¬w.Readable env) = some w := by
    rintro w ⟨before, after, hsplit, hbefore, hw⟩
    rw [List.find?_eq_some_iff_append]
    exact ⟨by simpa using hw, before, after, hsplit, fun u hu => by simpa using hbefore u hu⟩
  exact Option.some.inj ((hfind u hu).symm.trans (hfind v hv))

end Variable

/-! ## Readers -/

/-- what a reader makes of the variable `name`: nothing if it is not set, the value if its text stands for one, or a report -/
inductive Reads {α : Type} (stands : String → α → Prop) (name : String) :
    Option String → Except SettingError (Option α) → Prop where
  | unset : Reads stands name none (.ok none)
  | valid {text a} : stands text a → Reads stands name (some text) (.ok (some a))
  | invalid {text} : (∀ a, ¬stands text a) → Reads stands name (some text) (.error ⟨name⟩)

variable {env : Environment}

theorem reads_word (env : Environment) (name : String) : Reads SaysWord name (env name) (env.word name) := by
  unfold Environment.word
  cases env name with
  | none => exact .unset
  | some text =>
    dsimp only
    cases hword : Numeral.word? text.toList with
    | some w => exact .valid (saysWord_iff.2 hword)
    | none =>
      refine .invalid fun w h => ?_
      cases hword.symm.trans (saysWord_iff.1 h)

/-- A path is what its text is. -/
theorem reads_text (env : Environment) (name : String) :
    Reads (fun text path => path = text) name (env name) (.ok (env name)) := by
  cases env name with
  | none => exact .unset
  | some text => exact .valid rfl

theorem reads_order (env : Environment) :
    Reads (Variable.Says .bitOrder) "VC_CURSOR_BIT_ORDER" (env "VC_CURSOR_BIT_ORDER") (CursorSettings.readOrder env) := by
  unfold CursorSettings.readOrder
  cases env "VC_CURSOR_BIT_ORDER" with
  | none => exact .unset
  | some text =>
    dsimp only
    split_ifs with hlsb hmsb
    · exact .valid (saysOrder_iff.2 hlsb)
    · exact .valid (saysOrder_iff.2 hmsb)
    · refine .invalid fun o h => ?_
      cases o with
      | lsbFirst => exact hlsb (saysOrder_iff.1 h)
      | msbFirst => exact hmsb (saysOrder_iff.1 h)

theorem reads_pad (env : Environment) :
    Reads (Variable.Says .scanlinePad) "VC_CURSOR_SCANLINE_PAD" (env "VC_CURSOR_SCANLINE_PAD") (CursorSettings.readPad env) := by
  have hword := reads_word env "VC_CURSOR_SCANLINE_PAD"
  unfold CursorSettings.readPad
  generalize env "VC_CURSOR_SCANLINE_PAD" = raw, env.word "VC_CURSOR_SCANLINE_PAD" = r at hword ⊢
  cases hword with
  | unset => exact .unset
  | invalid h => exact .invalid fun pad hpad => h pad hpad.1
  | @valid text pad h =>
    dsimp only
    split_ifs with hpad
    · exact .valid ⟨h, hpad⟩
    · refine .invalid fun pad' hpad' => ?_
      obtain rfl := saysWord_unique h hpad'.1
      exact hpad hpad'.2

/-! ## One variable after the other -/

/-- what can come of reading the variables `vs` in a row: something of which `P` holds, or the report of the first of them that
cannot be read -/
inductive ReadsAll {α : Type} (env : Environment) (vs : List Variable) (P : α → Prop) : Except SettingError α → Prop where
  | read {a} : (∀ u ∈ vs, u.Readable env) → P a → ReadsAll env vs P (.ok a)
  | refused {v} (before after : List Variable) : vs = before ++ v :: after → (∀ u ∈ before, u.Readable env) → ¬v.Readable env →
      ReadsAll env vs P (.error ⟨v.name⟩)

/-- A variable that is read gives its field a value. -/
theorem Reads.readsAll {v : Variable} {r : Except SettingError (Option v.Value)} (h : Reads v.Says v.name (env v.name) r) :
    ReadsAll env [v] (fun value => v.Gives env (value.getD v.default)) r := by
  generalize hraw : env v.name = raw at h
  cases h with
  | unset =>
    refine .read ?_ ?_
    · rw [List.forall_mem_singleton, Variable.Readable, hraw]
      rintro _ ⟨⟩
    · rw [Variable.Gives, hraw]
      rfl
  | @valid text a h =>
    have hgives : v.Gives env a := by
      rw [Variable.Gives, hraw]
      exact h
    exact .read (List.forall_mem_singleton.2 hgives.readable) hgives
  | @invalid text h =>
    refine .refused [] [] rfl (List.forall_mem_nil _) fun hreadable => ?_
    obtain ⟨a, ha⟩ := hreadable text hraw
    exact h a ha

/-- The variables of a row are read from the front, and the rest only if the front could be read. -/
theorem ReadsAll.andThen {α β : Type} {vs ws : List Variable} {P : α → Prop} {Q : β → Prop} {r : Except SettingError α}
    {f : α → Except SettingError β} (h : ReadsAll env vs P r) (hf : ∀ a, P a → ReadsAll env ws Q (f a)) :
    ReadsAll env (vs ++ ws) Q (r.bind f) := by
  cases h with
  | refused before after hsplit hbefore hbad =>
    refine .refused before (after ++ ws) ?_ hbefore hbad
    rw [hsplit, List.append_assoc, List.cons_append]
  | @read a hreadable ha =>
    have hrest := hf a ha
    change ReadsAll env (vs ++ ws) Q (f a)
    generalize f a = r' at hrest
    cases hrest with
    | read hreadable' hb => exact .read (List.forall_mem_append.2 ⟨hreadable, hreadable'⟩) hb
    | refused before after hsplit hbefore hbad =>
      refine .refused (vs ++ before) after ?_ (List.forall_mem_append.2 ⟨hreadable, hbefore⟩) hbad
      rw [hsplit, List.append_assoc]

/-- What is made of the values does not fail. -/
theorem ReadsAll.map {α β : Type} {vs : List Variable} {P : α → Prop} {Q : β → Prop} {r : Except SettingError α} {f : α → β}
    (h : ReadsAll env vs P r) (hf : ∀ a, P a → Q (f a)) : ReadsAll env vs Q (r.map f) := by
  cases h with
  | refused before after hsplit hbefore hbad => exact .refused before after hsplit hbefore hbad
  | @read a hreadable ha => exact .read hreadable (hf a ha)

/-- Something is read exactly if each variable can be read. -/
theorem ReadsAll.ok_iff {α : Type} {vs : List Variable} {P : α → Prop} {r : Except SettingError α} (h : ReadsAll env vs P r) :
    (∃ a, r = .ok a) ↔ ∀ v ∈ vs, v.Readable env := by
  cases h with
  | read hreadable _ => exact iff_of_true ⟨_, rfl⟩ hreadable
  | @refused v before after hsplit _ hbad =>
    have hmem : v ∈ vs := by
      rw [hsplit]
      exact List.mem_append_right _ (List.mem_cons_self ..)
    exact iff_of_false (by simp) fun hreadable => hbad (hreadable v hmem)

theorem ReadsAll.of_ok {α : Type} {vs : List Variable} {P : α → Prop} {a : α} (h : ReadsAll env vs P (.ok a)) : P a := by
  cases h
  assumption

/-! ## All of them -/

namespace MailboxSettings

/-- each of the four fields is what its own variable says -/
structure Loads (env : Environment) (s : MailboxSettings) : Prop where
  device : Variable.Gives env .device s.device
  major : Variable.Gives env .major s.major
  minor : Variable.Gives env .minor s.minor
  memDevice : Variable.Gives env .memDevice s.memDevice

theorem read_eq (env : Environment) :
    read env = (env.word "VC_MAILBOX_MAJOR").bind fun major => (env.word "VC_MAILBOX_MINOR").map fun minor =>
      ⟨(env "VC_MAILBOX_DEVICE").getD default.device, major.getD default.major, minor.getD default.minor,
        (env "VC_MEM_DEVICE").getD default.memDevice⟩ := by
  unfold read
  cases env.word "VC_MAILBOX_MAJOR" with
  | error e => rfl
  | ok major => cases env.word "VC_MAILBOX_MINOR" <;> rfl

theorem readsAll_read (env : Environment) : ReadsAll env [.major, .minor] (Loads env) (read env) := by
  have hdevice := Reads.readsAll (v := .device) (reads_text env "VC_MAILBOX_DEVICE")
  have hmem := Reads.readsAll (v := .memDevice) (reads_text env "VC_MEM_DEVICE")
  have hmajor := Reads.readsAll (v := .major) (reads_word env "VC_MAILBOX_MAJOR")
  have hminor := Reads.readsAll (v := .minor) (reads_word env "VC_MAILBOX_MINOR")
  rw [read_eq]
  change ReadsAll env ([.major] ++ [.minor]) _ _
  refine hmajor.andThen fun major hmajor => hminor.map fun minor hminor => ?_
  exact ⟨hdevice.of_ok, hmajor, hminor, hmem.of_ok⟩

end MailboxSettings

namespace CursorSettings

/-- every field is what its own variable says -/
def Loads (env : Environment) (s : CursorSettings) : Prop :=
  ∀ v : Variable, v.Gives env (v.field s)

theorem read_eq (env : Environment) :
    read env = (readOrder env).bind fun order => (readPad env).bind fun pad => (MailboxSettings.read env).bind fun mailbox =>
      (env.word "VC_CURSOR_MIN_FIRMWARE").map fun version =>
        ⟨mailbox, (version.map FirmwareVersion.mk).getD default.minFirmware,
          ⟨pad.getD default.layout.scanlinePad, order.getD default.layout.order⟩⟩ := by
  unfold read
  cases readOrder env with
  | error e => rfl
  | ok order =>
    cases readPad env with
    | error e => rfl
    | ok pad =>
      cases MailboxSettings.read env with
      | error e => rfl
      | ok mailbox => cases env.word "VC_CURSOR_MIN_FIRMWARE" <;> rfl

theorem readsAll_read (env : Environment) : ReadsAll env Variable.checked (Loads env) (read env) := by
  have hversion := Reads.readsAll (v := .minFirmware) (reads_word env "VC_CURSOR_MIN_FIRMWARE")
  rw [read_eq]
  change ReadsAll env ([.bitOrder] ++ ([.scanlinePad] ++ ([.major, .minor] ++ [.minFirmware]))) _ _
  refine (reads_order env).readsAll.andThen fun order horder => ?_
  refine (reads_pad env).readsAll.andThen fun pad hpad => ?_
  refine (MailboxSettings.readsAll_read env).andThen fun mailbox hmailbox => ?_
  refine hversion.map fun version hversion v => ?_
  cases v with
  | bitOrder => exact horder
  | scanlinePad => exact hpad
  | device => exact hmailbox.device
  | major => exact hmailbox.major
  | minor => exact hmailbox.minor
  | memDevice => exact hmailbox.memDevice
  | minFirmware => cases version <;> exact hversion

variable {s s' : CursorSettings}

theorem Loads.readable (h : Loads env s) (v : Variable) : v.Readable env :=
  (h v).readable

/-- Two settings with the same fields are the same. -/
theorem ext_fields (h : ∀ v : Variable, v.field s = v.field s') : s = s' := by
  obtain ⟨⟨device, major, minor, mem⟩, ⟨version⟩, ⟨pad, order⟩⟩ := s
  obtain ⟨⟨device', major', minor', mem'⟩, ⟨version'⟩, ⟨pad', order'⟩⟩ := s'
  obtain rfl : device = device' := h .device
  obtain rfl : major = major' := h .major
  obtain rfl : minor = minor' := h .minor
  obtain rfl : mem = mem' := h .memDevice
  obtain rfl : version = version' := h .minFirmware
  obtain rfl : pad = pad' := h .scanlinePad
  obtain rfl : order = order' := h .bitOrder
  rfl

theorem read_eq_ok_iff : read env = .ok s ↔ Loads env s := by
  have hread := readsAll_read env
  generalize read env = r at hread
  cases hread with
  | @read s' _ hs' =>
    constructor
    · rintro ⟨⟩
      exact hs'
    · intro hs
      exact congrArg _ (ext_fields fun v => (hs' v).unique (hs v))
  | @refused v _ _ _ _ hbad => exact iff_of_false (by simp) fun hs => hbad (hs.readable v)

theorem read_eq_error_iff {e : SettingError} :
    read env = .error e ↔ ∃ v : Variable, v.FirstUnreadable env ∧ e = ⟨v.name⟩ := by
  have hread := readsAll_read env
  generalize read env = r at hread
  cases hread with
  | read hreadable hs =>
    refine iff_of_false (by simp) ?_
    rintro ⟨v, ⟨-, -, -, -, hbad⟩, -⟩
    exact hbad (hs.readable v)
  | @refused v before after hsplit hbefore hbad =>
    have hv : v.FirstUnreadable env := ⟨before, after, hsplit, hbefore, hbad⟩
    constructor
    · rintro ⟨⟩
      exact ⟨v, hv, rfl⟩
    · rintro ⟨u, hu, rfl⟩
      rw [hv.unique hu]

end CursorSettings

/-! ## Rows -/

/-- Where rows are padded to whole bytes, a row takes the fewest bytes that hold its pixels and are a multiple of the pad's. -/
theorem PlaneLayout.isLeast_rowBytes {l : PlaneLayout} (hpad : 8 ∣ l.scanlinePad.toNat) (hpos : 0 < l.scanlinePad.toNat)
    (width : UInt32) :
    IsLeast {n | l.scanlinePad.toNat / 8 ∣ n ∧ width.toNat ≤ 8 * n} (l.rowBytes width) := by
  obtain ⟨k, hk⟩ := hpad
  have hunit : l.scanlinePad.toNat / 8 = k := by omega
  have hmax : max l.scanlinePad.toNat 8 = 8 * k := by omega
  have hkpos : 0 < 8 * k := by omega
  have hbits : l.rowBits width = alignUp width.toNat (8 * k) := by
    rw [rowBits, hmax]
  obtain ⟨q, hq⟩ := dvd_alignUp width.toNat (8 * k)
  have hbytes : l.rowBytes width = k * q := by
    rw [rowBytes, hbits, hq, Nat.mul_assoc]
    omega
  rw [hunit, hbytes]
  constructor
  · refine ⟨Nat.dvd_mul_right k q, ?_⟩
    rw [← Nat.mul_assoc, ← hq]
    exact le_alignUp _ hkpos
  · rintro n ⟨hn, hwidth⟩
    have hround : alignUp width.toNat (8 * k) ≤ 8 * n := alignUp_le hwidth (Nat.mul_dvd_mul_left 8 hn)
    rw [hq, Nat.mul_assoc] at hround
    omega

namespace CursorSettings

variable {env : Environment} {s : CursorSettings}

/-- The pad of settings that were loaded is one of the four. -/
theorem Loads.scanlinePad (h : Loads env s) :
    s.layout.scanlinePad = 8 ∨ s.layout.scanlinePad = 16 ∨ s.layout.scanlinePad = 32 ∨ s.layout.scanlinePad = 64 := by
  have hpad := h .scanlinePad
  unfold Variable.Gives at hpad
  cases htext : env Variable.scanlinePad.name with
  | none =>
    rw [htext] at hpad
    exact Or.inr (Or.inr (Or.inl hpad))
  | some text =>
    rw [htext] at hpad
    exact hpad.2

/-- what becomes of an environment that settings are read from -/
structure Loading (env : Environment) : Prop where
  /-- each of the variables that may be unreadable is not set, or it can be read -/
  accepted : (∃ s, read env = .ok s) ↔ ∀ v ∈ Variable.checked, v.Readable env
  reported : ∀ e, read env = .error e ↔ ∃ v : Variable, v.FirstUnreadable env ∧ e = ⟨v.name⟩
  fields : ∀ s, read env = .ok s ↔ ∀ v : Variable, v.Gives env (v.field s)
  /-- no other variable has a say in a field -/
  own : ∀ env' s s', read env = .ok s → read env' = .ok s' →
    ∀ v : Variable, env v.name = env' v.name → v.field s = v.field s'
  unset : (∀ v : Variable, env v.name = none) → read env = .ok .default
  rows : ∀ s, read env = .ok s → ∀ width,
    IsLeast {n | s.layout.scanlinePad.toNat / 8 ∣ n ∧ width.toNat ≤ 8 * n} (s.layout.rowBytes width)

/-- **Loading the settings**, from any environment. It is accepted exactly if each variable is not set or can be read, and else
the first that cannot be read is reported. Every field is then what its own variable's text stands for, and the default if the
variable is not set; and a row of a plane takes the fewest whole pads that hold it. -/
theorem settings_loaded (env : Environment) : Loading env := by
  constructor
  case accepted => exact (readsAll_read env).ok_iff
  case reported => exact fun e => read_eq_error_iff
  case fields => exact fun s => read_eq_ok_iff
  case own =>
    intro env' s s' hs hs' v hsame
    have hgives : v.Gives env' (v.field s') := read_eq_ok_iff.1 hs' v
    unfold Variable.Gives at hgives
    rw [← hsame] at hgives
    exact (read_eq_ok_iff.1 hs v).unique hgives
  case unset =>
    intro hunset
    refine read_eq_ok_iff.2 fun v => ?_
    unfold Variable.Gives
    rw [hunset v]
    cases v <;> rfl
  case rows =>
    intro s hs width
    have hpad := (read_eq_ok_iff.1 hs).scanlinePad
    apply PlaneLayout.isLeast_rowBytes
    · rcases hpad with h | h | h | h <;> rw [h] <;> decide
    · rcases hpad with h | h | h | h <;> rw [h] <;> decide

/-- Two environments with the same text for the order, and other things besides: the order is the same; rows of 65 pixels
take 16 bytes under a pad of 64 bits, the fewest that are whole pads. -/
theorem settings_loaded_same_order :
    let env : Environment := fun name =>
      if name = "VC_CURSOR_BIT_ORDER" then some "\tMsB " else if name = "VC_CURSOR_SCANLINE_PAD" then some "0x40" else none
    let env' : Environment := fun name =>
      if name = "VC_CURSOR_BIT_ORDER" then some "\tMsB " else if name = "VC_MEM_DEVICE" then some "" else none
    ∃ s s', read env = .ok s ∧ read env' = .ok s' ∧ s.layout.order = s'.layout.order ∧ s.layout.rowBytes 65 = 16 ∧
      IsLeast {n | s.layout.scanlinePad.toNat / 8 ∣ n ∧ 65 ≤ 8 * n} (s.layout.rowBytes 65) := by
  intro env env'
  have hs : read env = .ok ⟨.default, minCursorFirmware, ⟨64, .msbFirst⟩⟩ := by decide +kernel
  have hs' : read env' = .ok ⟨⟨"/dev/vc4mail", 100, 0, ""⟩, minCursorFirmware, ⟨32, .msbFirst⟩⟩ := by decide +kernel
  have hloaded := settings_loaded env
  exact ⟨_, _, hs, hs', hloaded.own env' _ _ hs hs' .bitOrder (by decide), by decide, hloaded.rows _ hs 65⟩

end CursorSettings
end MailboxCursor
