import EpsilonChat.Base.Trim
import EpsilonChat.Lib.Base64

/-!
# Autocrypt headers

An `Aheader` is written as

    addr=<address>; prefer-encrypt=mutual; keydata=<base64>

with a space before every character of the key data whose position is 70 modulo 78, so that the line
may be folded there.  `from_str` splits at `;` and at the FIRST `=` (the padding of base64 consists
of `=` too), and drops all whitespace of the key data.

* `fromBase64_unfold`: whitespace between the characters of the key data does not matter;
* `length_run_le`: between two spaces there are at most 78 characters;
* `parse_display`: the attributes that are read are those that were written;
* **`aheader_round_trip`**: a header is read back, also after folding.

The OpenPGP library (`KeyLib`) and the Unicode case table (`CaseTable`) are parameters.
-/

namespace EpsilonChat.Autocrypt
open Lib Lib.Split Text

/-! ## the libraries -/

/-- the OpenPGP library -/
structure KeyLib (K : Type) where
  toBytes : K → List UInt8
  fromBytes : List UInt8 → Option K
  verifyBindings : K → Bool
  fromBytes_toBytes : ∀ k, fromBytes (toBytes k) = some k

/-- lower-casing of single characters, and when a capital sigma is the last letter of a word; no
character becomes whitespace or a semicolon -/
structure CaseTable where
  toLower : Char → List Char
  isFinalSigma : List Char → List Char → Bool
  ne_nil : ∀ c, toLower c ≠ []
  whitespace : ∀ c, isWhitespace c = false → ∀ d ∈ toLower c, isWhitespace d = false
  semicolon : ∀ c, c ≠ ';' → ';' ∉ toLower c

def CaseTable.lowerAt (t : CaseTable) (before : List Char) (c : Char) (after : List Char) : List Char :=
  if c = 'Σ' then (if t.isFinalSigma before after then ['ς'] else ['σ']) else t.toLower c

def CaseTable.lowerFrom (t : CaseTable) (before : List Char) : List Char → List Char
  | [] => []
  | c :: after => t.lowerAt before c after ++ t.lowerFrom (before ++ [c]) after

def CaseTable.toLowercase (t : CaseTable) (s : List Char) : List Char := t.lowerFrom [] s

/-! ## the source -/

inductive EncryptPreference where
  | noPreference
  | mutual_
  deriving DecidableEq, Repr

instance : Inhabited EncryptPreference := ⟨.noPreference⟩

/-- `EncryptPreference::new`; the error "Cannot parse encryption preference {s}" is not looked at -/
def EncryptPreference.new (s : List Char) : Option EncryptPreference :=
  if s = "mutual".toList then some .mutual_
  else if s = "nopreference".toList then some .noPreference
  else none

structure Aheader (K : Type) where
  addr : List Char
  publicKey : K
  preferEncrypt : EncryptPreference
  verified : Bool
  deriving DecidableEq, Repr

inductive AheaderError where
  /-- "Autocrypt header has no addr" -/
  | noAddr
  /-- "keydata attribute is not found" -/
  | noKeydata
  /-- "Autocrypt key cannot be decoded" -/
  | notDecoded
  /-- "Autocrypt key cannot be verified" -/
  | notVerified
  /-- "Unknown Autocrypt attribute found" -/
  | unknownAttribute
  deriving DecidableEq, Repr

section
variable {K : Type} (lib : KeyLib K) (table : CaseTable)

/-- keys of very old versions have up to nine bytes of garbage at their end -/
def fromSlice (bytes : List UInt8) : Option K :=
  match lib.fromBytes bytes with
  | some key => some key
  | none =>
    (List.range' 3 (min bytes.length 10 - 3)).findSome? fun garbageBytes =>
      lib.fromBytes (bytes.take (bytes.length - garbageBytes))

def toBase64 (key : K) : List Char := Base64.encode (lib.toBytes key)

def fromBase64 (data : List Char) : Option K :=
  let cleaned := ((data.splitOnP isWhitespace).filter (· ≠ [])).flatten
  (Base64.decode cleaned).bind (fromSlice lib)

/-- the fold of `fmt`, over the characters and their positions -/
def keydata (key : K) : List Char :=
  (toBase64 lib key).zipIdx.foldl
    (fun res x =>
      let res := if x.2 % 78 = 78 - "keydata=".length then res ++ [' '] else res
      res ++ [x.1]) []

def displayAttributes (h : Aheader K) : List Char :=
  "addr=".toList ++ table.toLowercase h.addr ++ [';'] ++
    if h.preferEncrypt = .mutual_ then " prefer-encrypt=mutual;".toList else []

def display (h : Aheader K) : List Char :=
  displayAttributes table h ++ " keydata=".toList ++ keydata lib h.publicKey

def toAttribute (a : List Char) : Option (List Char × List Char) :=
  (splitOnce '=' (trimEnd (trimStart a))).map fun kv =>
    (trimEnd (trimStart kv.1), trimEnd (trimStart kv.2))

/-- the `BTreeMap` of the attributes; of two with the same key the later one wins -/
abbrev Attributes := List (List Char × List Char)

def Attributes.insert (m : Attributes) (kv : List Char × List Char) : Attributes :=
  m.filter (fun x => x.1 ≠ kv.1) ++ [kv]

def Attributes.parse (s : List Char) : Attributes :=
  ((s.splitOn ';').filterMap toAttribute).foldl Attributes.insert []

def Attributes.get (m : Attributes) (key : String) : Option (List Char) := m.lookup key.toList

def Attributes.erase (m : Attributes) (key : String) : Attributes :=
  m.filter fun x => x.1 ≠ key.toList

def fromStr (s : List Char) : Except AheaderError (Aheader K) :=
  let attributes := Attributes.parse s
  match attributes.get "addr" with
  | none => .error .noAddr
  | some addr =>
    let attributes := attributes.erase "addr"
    match attributes.get "keydata" with
    | none => .error .noKeydata
    | some raw =>
      match fromBase64 lib raw with
      | none => .error .notDecoded
      | some publicKey =>
        let attributes := attributes.erase "keydata"
        if !lib.verifyBindings publicKey then .error .notVerified
        else
          let preferEncrypt :=
            ((attributes.get "prefer-encrypt").bind EncryptPreference.new).getD default
          let attributes := attributes.erase "prefer-encrypt"
          let verified := (attributes.get "_verified").isSome
          let attributes := attributes.erase "_verified"
          if attributes.any fun x => x.1.head? ≠ some '_' then .error .unknownAttribute
          else .ok { addr, publicKey, preferEncrypt, verified }

end

/-! ## lower case -/

section
variable (t : CaseTable)

theorem lowerAt_spec (before : List Char) (c : Char) (after : List Char) :
    t.lowerAt before c after ≠ [] ∧
      (isWhitespace c = false → ∀ d ∈ t.lowerAt before c after, isWhitespace d = false) ∧
      (c ≠ ';' → ';' ∉ t.lowerAt before c after) := by
  unfold CaseTable.lowerAt
  split
  · split <;> simp [isWhitespace]
  · exact ⟨t.ne_nil c, t.whitespace c, t.semicolon c⟩

theorem lowerFrom_ne_nil (before : List Char) {s : List Char} (hs : s ≠ []) :
    t.lowerFrom before s ≠ [] := by
  cases s with
  | nil => exact absurd rfl hs
  | cons c after => exact List.append_ne_nil_of_left_ne_nil (lowerAt_spec t before c after).1 _

theorem semicolon_lowerFrom (before : List Char) {s : List Char} (hs : ';' ∉ s) :
    ';' ∉ t.lowerFrom before s := by
  induction s generalizing before with
  | nil => exact List.not_mem_nil
  | cons c after ih =>
    rw [List.mem_cons, not_or] at hs
    rw [CaseTable.lowerFrom, List.mem_append, not_or]
    exact ⟨(lowerAt_spec t before c after).2.2 (Ne.symm hs.1), ih _ hs.2⟩

theorem last_lowerFrom (before : List Char) {s : List Char}
    (hs : ∀ c, s.getLast? = some c → isWhitespace c = false) :
    ∀ d, (t.lowerFrom before s).getLast? = some d → isWhitespace d = false := by
  induction s generalizing before with
  | nil => nofun
  | cons c after ih =>
    intro d hd
    rw [CaseTable.lowerFrom] at hd
    by_cases hafter : after = []
    · -- the last character of the text
      subst hafter
      rw [CaseTable.lowerFrom, List.append_nil] at hd
      exact (lowerAt_spec t before c []).2.1 (hs c rfl) d (List.mem_of_getLast? hd)
    · rw [List.getLast?_append_of_ne_nil _ (lowerFrom_ne_nil t _ hafter)] at hd
      apply ih _ _ d hd
      intro c' hc'
      apply hs
      rw [List.getLast?_cons, hc']
      rfl

theorem trimmed_toLowercase {s : List Char} (hs : Trimmed s) : Trimmed (t.toLowercase s) where
  head d hd := by
    cases s with
    | nil => cases hd
    | cons c after =>
      obtain ⟨hne, hwhite, -⟩ := lowerAt_spec t [] c after
      rw [CaseTable.toLowercase, CaseTable.lowerFrom, List.head?_append_of_ne_nil _ hne] at hd
      exact hwhite (hs.head c rfl) d (List.mem_of_head? hd)
  last := last_lowerFrom t [] hs.last

end

/-! ## the key data -/

theorem toBase64_chars {K : Type} (lib : KeyLib K) (key : K) :
    ∀ c ∈ toBase64 lib key, isWhitespace c = false ∧ c ≠ ';' := by
  have hchars : ('=' :: Base64.alphabet).all (fun c => !isWhitespace c && c != ';') = true := by
    decide +kernel
  intro c hc
  have h := List.all_eq_true.mp hchars c (List.mem_cons.mpr (Base64.mem_encode c hc).symm)
  simpa using h

def spaced (i : ℕ) : List Char → List Char
  | [] => []
  | c :: cs => if i % 78 = 70 then ' ' :: c :: spaced (i + 1) cs else c :: spaced (i + 1) cs

theorem foldl_spaced (cs res : List Char) (i : ℕ) :
    (cs.zipIdx i).foldl
      (fun res x =>
        let res := if x.2 % 78 = 78 - "keydata=".length then res ++ [' '] else res
        res ++ [x.1]) res = res ++ spaced i cs := by
  have hlen : 78 - "keydata=".length = 70 := by decide
  induction cs generalizing res i with
  | nil => simp [spaced]
  | cons c cs ih =>
    rw [List.zipIdx_cons, List.foldl_cons, ih]
    simp only [hlen, spaced]
    split <;> simp

theorem keydata_eq {K : Type} (lib : KeyLib K) (key : K) :
    keydata lib key = spaced 0 (toBase64 lib key) := by
  rw [keydata, foldl_spaced, List.nil_append]

theorem filter_spaced {cs : List Char} (hcs : ∀ c ∈ cs, isWhitespace c = false) (i : ℕ) :
    (spaced i cs).filter (fun c => !isWhitespace c) = cs := by
  have hspace : isWhitespace ' ' = true := by decide
  induction cs generalizing i with
  | nil => rfl
  | cons c cs ih =>
    obtain ⟨hc, hcs⟩ := List.forall_mem_cons.mp hcs
    rw [spaced]
    split <;> simp [hspace, hc, ih hcs]

/-! ### runs without a space -/

theorem spaced_congr (cs : List Char) {i j : ℕ} (h : i % 78 = j % 78) : spaced i cs = spaced j cs := by
  induction cs generalizing i j with
  | nil => rfl
  | cons c cs ih => rw [spaced, spaced, h, ih (show (i + 1) % 78 = (j + 1) % 78 by omega)]

theorem length_prefix_le {cs run : List Char} {i : ℕ} (h : run <+: spaced i cs) (hrun : ' ' ∉ run) :
    run.length ≤ (148 - i % 78) % 78 := by
  induction cs generalizing run i with
  | nil => simp [List.prefix_nil.mp h]
  | cons c cs ih =>
    rw [spaced] at h
    cases run with
    | nil => simp
    | cons d run =>
      split at h
      · -- the space itself cannot be part of the run
        rw [(List.cons_prefix_cons.mp h).1] at hrun
        exact absurd List.mem_cons_self hrun
      · have hle := ih (List.cons_prefix_cons.mp h).2 fun hm => hrun (List.mem_cons_of_mem _ hm)
        rw [List.length_cons]
        omega

theorem length_run_le {cs run : List Char} {i : ℕ} (h : run <:+: spaced i cs) (hrun : ' ' ∉ run) :
    run.length ≤ 78 := by
  induction cs generalizing i with
  | nil => simp [List.infix_nil.mp h]
  | cons c cs ih =>
    -- a run that starts with the first character `c`, also behind a space
    have hfirst : run <+: c :: spaced (i + 1) cs → run.length ≤ 78 := by
      intro hp
      cases run with
      | nil => simp
      | cons d run =>
        have hle := length_prefix_le (List.cons_prefix_cons.mp hp).2
          fun hm => hrun (List.mem_cons_of_mem _ hm)
        rw [List.length_cons]
        omega
    rw [spaced] at h
    split at h
    · rcases List.infix_cons_iff.mp h with hp | h
      · cases run with
        | nil => simp
        | cons d run =>
          rw [(List.cons_prefix_cons.mp hp).1] at hrun
          exact absurd List.mem_cons_self hrun
      · exact (List.infix_cons_iff.mp h).elim hfirst ih
    · exact (List.infix_cons_iff.mp h).elim hfirst ih

theorem keydata_line {K : Type} (lib : KeyLib K) (key : K) :
    " keydata=".toList ++ keydata lib key = spaced 70 ("keydata=".toList ++ toBase64 lib key) := by
  have hwrap : spaced 0 (toBase64 lib key) = spaced 78 (toBase64 lib key) := spaced_congr _ (by omega)
  rw [keydata_eq, hwrap]
  rfl

/-! ### folding -/

inductive Folded : List Char → List Char → Prop
  | nil : Folded [] []
  | keep (c : Char) {l l' : List Char} : Folded l l' → Folded (c :: l) (c :: l')
  | fold {space l l' : List Char} : (∀ c ∈ space, isWhitespace c = true) → Folded l l' →
      Folded (' ' :: l) (space ++ l')

theorem Folded.refl (l : List Char) : Folded l l := by
  induction l with
  | nil => exact .nil
  | cons c l ih => exact .keep c ih

theorem Folded.filter_eq {l l' : List Char} (h : Folded l l') :
    l'.filter (fun c => !isWhitespace c) = l.filter fun c => !isWhitespace c := by
  induction h with
  | nil => rfl
  | keep c _ ih => rw [List.filter_cons, List.filter_cons, ih]
  | @fold space _ _ hspace _ ih =>
    have hnil : space.filter (fun c => !isWhitespace c) = [] := by
      rw [List.filter_eq_nil_iff]
      intro c hc
      simp [hspace c hc]
    rw [List.filter_append, hnil, List.nil_append, ih, List.filter_cons_of_neg (by decide)]

theorem flatten_splitOnP {α : Type*} (p : α → Bool) (l : List α) [DecidableEq α] :
    ((l.splitOnP p).filter (· ≠ [])).flatten = l.filter fun c => !p c := by
  have hflat : ∀ ls : List (List α), (ls.filter (· ≠ [])).flatten = ls.flatten := by
    intro ls
    induction ls with
    | nil => rfl
    | cons x ls ih =>
      by_cases hx : x = []
      · simp [hx, ← ih]
      · rw [List.filter_cons_of_pos (by simpa using hx), List.flatten_cons, List.flatten_cons, ih]
  rw [hflat]
  induction l with
  | nil => rfl
  | cons c l ih =>
    rw [List.splitOnP_cons_eq_if_modifyHead]
    split
    · next hc => simpa [hc] using ih
    · next hc =>
      rcases hs : l.splitOnP p with _ | ⟨hd, tl⟩
      · exact absurd hs (List.splitOnP_ne_nil p l)
      · rw [hs] at ih
        rw [List.modifyHead_cons, List.flatten_cons, List.cons_append, ← List.flatten_cons, ih]
        simp [hc]

theorem fromBase64_unfold {K : Type} (lib : KeyLib K) {key : K} {data : List Char}
    (h : data.filter (fun c => !isWhitespace c) = toBase64 lib key) :
    fromBase64 lib data = some key := by
  simp only [fromBase64, flatten_splitOnP, h, toBase64, Base64.decode_encode, Option.bind_some,
    fromSlice, lib.fromBytes_toBytes]

/-! ## the attributes -/

theorem toAttribute_pair {space k : List Char} (hspace : ∀ c ∈ space, isWhitespace c = true)
    (hk : Trimmed k) (hne : k ≠ []) (heq : '=' ∉ k) (v : List Char) :
    toAttribute (space ++ (k ++ '=' :: v)) = some (k, trimEnd (trimStart (trimEnd v))) := by
  have hstart : trimStart (space ++ (k ++ '=' :: v)) = k ++ '=' :: v := by
    rw [trimStart_append_of_whitespace hspace]
    apply trimStart_eq_self
    rw [List.head?_append_of_ne_nil _ hne]
    exact hk.head
  have hend : trimEnd (k ++ '=' :: v) = k ++ '=' :: trimEnd v := by
    rw [List.append_cons, trimEnd_append (trimEnd_concat (by decide) k), ← List.append_cons]
  rw [toAttribute, hstart, hend, splitOnce_append heq, Option.map_some, trim_of_trimmed hk]

section
variable {K : Type} (table : CaseTable)

def headAttributes (h : Aheader K) : Attributes :=
  ("addr".toList, table.toLowercase h.addr) ::
    if h.preferEncrypt = .mutual_ then [("prefer-encrypt".toList, "mutual".toList)] else []

theorem toAttribute_addr {addr : List Char} (haddr : Trimmed addr) :
    toAttribute ("addr=".toList ++ addr) = some ("addr".toList, addr) := by
  have hpair := toAttribute_pair (List.forall_mem_nil _) (trim_eq_self_iff.mp (by decide))
    (by decide) (by decide) addr (k := "addr".toList)
  rwa [trimEnd_eq_self haddr.last, trim_of_trimmed haddr] at hpair

theorem toAttribute_keydata (data : List Char) :
    toAttribute (" keydata=".toList ++ data) =
      some ("keydata".toList, trimEnd (trimStart (trimEnd data))) := by
  have hspace : ∀ c ∈ [' '], isWhitespace c = true := by simp [isWhitespace]
  exact toAttribute_pair hspace (trim_eq_self_iff.mp (by decide)) (by decide) (by decide) data
    (k := "keydata".toList)

theorem splitOn_display (h : Aheader K) (haddr : ';' ∉ h.addr) {data : List Char}
    (hdata : ';' ∉ data) :
    (displayAttributes table h ++ " keydata=".toList ++ data).splitOn ';' =
      ("addr=".toList ++ table.toLowercase h.addr) ::
        ((if h.preferEncrypt = .mutual_ then [" prefer-encrypt=mutual".toList] else []) ++
          [" keydata=".toList ++ data]) := by
  have hfirst : ';' ∉ "addr=".toList ++ table.toLowercase h.addr := by
    simpa [CaseTable.toLowercase] using semicolon_lowerFrom table [] haddr
  have hlast : ';' ∉ " keydata=".toList ++ data := by simpa using hdata
  have hshape : ∀ x y z : List Char, x ++ [';'] ++ y ++ " keydata=".toList ++ z =
      x ++ ';' :: (y ++ (" keydata=".toList ++ z)) := by simp
  delta displayAttributes
  rw [hshape, List.splitOn_append_cons_self_of_not_mem hfirst]
  split
  · have hcut : " prefer-encrypt=mutual;".toList = " prefer-encrypt=mutual".toList ++ [';'] := rfl
    rw [hcut, List.append_assoc, List.singleton_append,
      List.splitOn_append_cons_self_of_not_mem (by decide), List.splitOn_eq_singleton hlast]
    rfl
  · rw [List.nil_append, List.splitOn_eq_singleton hlast]
    rfl

theorem parse_display (h : Aheader K) (haddr : ';' ∉ h.addr) (htrim : Trimmed h.addr)
    {data : List Char} (hdata : ';' ∉ data) :
    Attributes.parse (displayAttributes table h ++ " keydata=".toList ++ data) =
      headAttributes table h ++ [("keydata".toList, trimEnd (trimStart (trimEnd data)))] := by
  have hP : toAttribute " prefer-encrypt=mutual".toList =
      some ("prefer-encrypt".toList, "mutual".toList) := by decide +kernel
  have hA := toAttribute_addr (trimmed_toLowercase table htrim)
  rw [Attributes.parse, splitOn_display table h haddr hdata, headAttributes]
  cases h.preferEncrypt with
  | noPreference =>
    simp only [reduceCtorEq, if_false, List.nil_append, List.filterMap_cons, List.filterMap_nil, hA,
      toAttribute_keydata]
    rfl
  | mutual_ =>
    simp only [if_true, List.singleton_append, List.filterMap_cons, List.filterMap_nil, hA, hP,
      toAttribute_keydata]
    rfl

variable (lib : KeyLib K)

theorem fromStr_attributes {s raw : List Char} (h : Aheader K)
    (hparse : Attributes.parse s = headAttributes table h ++ [("keydata".toList, raw)])
    (hread : fromBase64 lib raw = some h.publicKey) (hkey : lib.verifyBindings h.publicKey = true) :
    fromStr lib s = .ok { h with addr := table.toLowercase h.addr, verified := false } := by
  have hA : (Attributes.parse s).get "addr" = some (table.toLowercase h.addr) := by
    rw [hparse]
    rfl
  have hK : ((Attributes.parse s).erase "addr").get "keydata" = some raw := by
    rw [hparse, headAttributes]
    cases h.preferEncrypt <;> rfl
  have hrest : ((Attributes.parse s).erase "addr").erase "keydata" =
      if h.preferEncrypt = .mutual_ then [("prefer-encrypt".toList, "mutual".toList)] else [] := by
    rw [hparse, headAttributes]
    cases h.preferEncrypt <;> rfl
  simp only [fromStr, hA, hK, hread, hkey, hrest, Bool.not_true, Bool.false_eq_true, if_false]
  obtain ⟨addr, publicKey, preferEncrypt, verified⟩ := h
  cases preferEncrypt <;> rfl

end

/-- **round trip.** For an address without a semicolon and without whitespace at its ends, and a key
with valid bindings: the printed header is read, also if every space of the key data has become other
whitespace, and gives the address in lower case, the key and the preference; no run without a space
in the line of the key data is longer than 78 characters -/
theorem aheader_round_trip {K : Type} (lib : KeyLib K) (table : CaseTable) (h : Aheader K)
    (haddr : ';' ∉ h.addr) (htrim : Trimmed h.addr) (hkey : lib.verifyBindings h.publicKey = true) :
    fromStr lib (display lib table h) =
      .ok { h with addr := table.toLowercase h.addr, verified := false } ∧
    (∀ data, Folded (keydata lib h.publicKey) data →
      fromStr lib (displayAttributes table h ++ " keydata=".toList ++ data) =
        .ok { h with addr := table.toLowercase h.addr, verified := false }) ∧
    ∀ run, run <:+: " keydata=".toList ++ keydata lib h.publicKey → ' ' ∉ run → run.length ≤ 78 := by
  have hfold : ∀ data, Folded (keydata lib h.publicKey) data →
      fromStr lib (displayAttributes table h ++ " keydata=".toList ++ data) =
        .ok { h with addr := table.toLowercase h.addr, verified := false } := by
    intro data hdata
    have hfilter : data.filter (fun c => !isWhitespace c) = toBase64 lib h.publicKey := by
      rw [hdata.filter_eq, keydata_eq, filter_spaced fun c hc => (toBase64_chars lib _ c hc).1]
    have hsemicolon : ';' ∉ data := by
      intro hmem
      have hkept : ';' ∈ data.filter fun c => !isWhitespace c := List.mem_filter.mpr ⟨hmem, by decide⟩
      rw [hfilter] at hkept
      exact (toBase64_chars lib _ _ hkept).2 rfl
    have hread : fromBase64 lib (trimEnd (trimStart (trimEnd data))) = some h.publicKey := by
      apply fromBase64_unfold
      rw [filter_trimEnd, filter_trimStart, filter_trimEnd, hfilter]
    exact fromStr_attributes table lib h (parse_display table h haddr htrim hsemicolon) hread hkey
  refine ⟨hfold _ (Folded.refl _), hfold, fun run hrun hspace => ?_⟩
  rw [keydata_line] at hrun
  exact length_run_le hrun hspace

/-- a public-key packet with a body of 60 bytes -/
abbrev Packet := { body : List UInt8 // body.length = 60 }

def packets : KeyLib Packet where
  toBytes key := 0xC6 :: 60 :: key.val
  fromBytes
    | 0xC6 :: 60 :: body => if h : body.length = 60 then some ⟨body, h⟩ else none
    | _ => none
  verifyBindings _ := true
  fromBytes_toBytes key := dif_pos key.property

def sameCase : CaseTable where
  toLower c := [c]
  isFinalSigma _ _ := false
  ne_nil _ := List.cons_ne_nil _ _
  whitespace c hc d hd := by rwa [List.mem_singleton.mp hd]
  semicolon c hc := by simpa using hc.symm

/-- a version 4 packet -/
def sampleKey : Packet := ⟨(List.range 60).map fun i => UInt8.ofNat (i + 4), rfl⟩

/-- key data of 84 characters, with one space -/
theorem aheader_round_trip_spaced :
    keydata packets sampleKey = ("xjwEBQYHCAkKCwwNDg8QERITFBUWFxgZGhscHR4fICEiIyQlJicoKSorLC0uLzAxMjM0NT ".toList ++
      "Y3ODk6Ozw9Pj8=".toList) ∧
    fromStr packets (display packets sameCase ⟨"me@mail.org".toList, sampleKey, .mutual_, true⟩) =
      .ok ⟨"me@mail.org".toList, sampleKey, .mutual_, false⟩ :=
  ⟨by decide +kernel, (aheader_round_trip packets sameCase
    ⟨"me@mail.org".toList, sampleKey, .mutual_, true⟩ (by decide) (trim_eq_self_iff.mp (by decide))
    rfl).1⟩

end EpsilonChat.Autocrypt
