import Mathlib

/-!
# Recoding avatars

`check_or_recode_to_size` decides by conditions that are evaluated lazily, and that encode the image
as a side effect, whether it is scaled.  An avatar is scaled down by 7/8 until its encoding fits, or
fails below 20 pixels.  At the end an EMPTY buffer is taken to mean that nothing was encoded yet.

* `scaleLoop_spec`: the loop ends with a resized image whose encoding fits;
* `doScale_spec`: an avatar that is not scaled fits;
* **`avatar_within_limits`**: the blob fits, provided that no resized image is encoded as nothing;
* `unscaled_blob`: otherwise the image may be written unscaled.

The `image` crate is a parameter (`ImageLib`); encoders are arbitrary functions.
-/

namespace EpsilonChat.Blob
namespace Recode

inductive ImageFormat where
  | png
  | jpeg
  | other
  deriving DecidableEq

inductive ImageOutputFormat where
  | png
  | jpeg (quality : ℕ)
  deriving DecidableEq

inductive Viewtype where
  | image
  | sticker
  | file
  | other
  deriving DecidableEq

structure Rgba where
  r : UInt8
  g : UInt8
  b : UInt8
  a : UInt8

/-- images of the type `I`; `resize` keeps the aspect ratio, so the result fits into the given size.
`resolutionLimit` is the computation in `f64` for images other than avatars -/
structure ImageLib (I O E : Type) where
  width : I → ℕ
  height : I → ℕ
  getPixel : I → ℕ → ℕ → Rgba
  putPixel : I → ℕ → ℕ → Rgba → I
  blend : Rgba → Rgba → Rgba
  noTransforms : O
  applyOrientation : I → O → I
  resize : I → ℕ → ℕ → I
  thumbnail : I → ℕ → ℕ → I
  resolutionLimit : ℕ → ℕ → ℕ → Option ℕ
  encode : I → ImageOutputFormat → Except E (List UInt8)
  width_putPixel : ∀ img x y p, width (putPixel img x y p) = width img
  height_putPixel : ∀ img x y p, height (putPixel img x y p) = height img
  apply_noTransforms : ∀ img, applyOrientation img noTransforms = img
  resize_fits : ∀ img w, width (resize img w w) ≤ w ∧ height (resize img w w) ≤ w

/-- the file, and what comes of opening it, of finding its format (by its contents or its name), and
of decoding it; `exif` is the orientation in its Exif data -/
structure ImageFile (I O E : Type) where
  bytes : List UInt8
  exif : Option O
  opened : Except E Unit
  format : Except E (Option ImageFormat)
  decoded : Except E I

inductive RecodeError (E : Type) where
  | io (e : E)
  /-- "Unknown format" -/
  | unknownFormat
  /-- "image decode failure" -/
  | decode (e : E)
  | encode (e : E)
  /-- "Failed to scale image to below {max_bytes}B." -/
  | failedToScale (maxBytes : ℕ)
  /-- "failed to write recoded blob to file" -/
  | write (e : E)

/-- the local variables; `shows` is the image that `encoded` was encoded from -/
structure Canvas (I : Type) where
  img : I
  addWhiteBg : Bool
  encoded : List UInt8 := []
  shows : Option I := none

/-- `written` is the new name of the blob, and what is in it -/
structure Recoded (I : Type) where
  name : String
  viewtype : Viewtype
  written : Option (String × Canvas I) := none

/-! ## the source -/

section
variable {I O E : Type} (lib : ImageLib I O E)
variable {s : Canvas I} {maxWh maxBytes : ℕ} {img : I} {ofmt : ImageOutputFormat}

def addWhiteBg (img : I) : I :=
  (List.range (lib.height img)).foldl (fun img y =>
    (List.range (lib.width img)).foldl (fun img x =>
      lib.putPixel img x y (lib.blend ⟨255, 255, 255, 255⟩ (lib.getPixel img x y))) img) img

/-- `if mem::take(&mut add_white_bg) { self::add_white_bg(&mut img) }` -/
def Canvas.takeWhiteBg (s : Canvas I) : Canvas I :=
  if s.addWhiteBg then { s with img := Recode.addWhiteBg lib s.img, addWhiteBg := false } else s

def Canvas.encodeImg (s : Canvas I) (img : I) (fmt : ImageOutputFormat) :
    Except (RecodeError E) (Canvas I) :=
  match lib.encode img fmt with
  | .error e => .error (.encode e)
  | .ok bytes => .ok { s with encoded := bytes, shows := some img }

def outputFormat (fmt : ImageFormat) (exceedsMaxBytes : Bool) : ImageOutputFormat :=
  if fmt = .png ∧ !exceedsMaxBytes then .png else .jpeg 75

def hasOpaqueCorners (img : I) : Bool :=
  let xMax := lib.width img - 1
  let yMax := lib.height img - 1
  !(decide (xMax < lib.width img ∧ yMax < lib.height img)) ||
    !((lib.getPixel img 0 0).a == 0 || (lib.getPixel img xMax 0).a == 0 ||
      (lib.getPixel img 0 yMax).a == 0 || (lib.getPixel img xMax yMax).a == 0)

/-- `while !resolution_limit.is_multiple_of(8) { resolution_limit -= 1 }` -/
def alignTo8 : ℕ → ℕ
  | 0 => 0
  | n + 1 => if (n + 1) % 8 = 0 then n + 1 else alignTo8 n

def targetWh (img : I) (maxWh : ℕ) (isAvatar : Bool) : ℕ :=
  let longestSideLen := max (lib.width img) (lib.height img)
  let targetWh :=
    if !isAvatar then
      let limit := (lib.resolutionLimit (lib.width img) (lib.height img) maxWh).getD maxWh
      if limit < longestSideLen ∧ limit > 8 then alignTo8 limit else limit
    else maxWh
  min (min targetWh longestSideLen) 65535

def doScale (s : Canvas I) (ofmt : ImageOutputFormat) (exif : Option O) (maxWh maxBytes : ℕ)
    (exceedsMaxBytes isAvatar : Bool) : Except (RecodeError E) (Bool × Canvas I) :=
  if exceedsMaxBytes then .ok (true, s)
  else if !isAvatar then .ok (false, s)
  else if lib.width s.img > maxWh ∨ lib.height s.img > maxWh then .ok (true, s)
  else if exif.isNone then .ok (false, s)
  else
    let s := s.takeWhiteBg lib
    match s.encodeImg lib s.img ofmt with
    | .error e => .error e
    | .ok s => .ok (decide (s.encoded.length > maxBytes), s)

def scaleLoop (ofmt : ImageOutputFormat) (maxBytes : ℕ) (isAvatar : Bool) (targetWh : ℕ)
    (s : Canvas I) : Except (RecodeError E) (Canvas I) :=
  let s := s.takeWhiteBg lib
  let newImg := if isAvatar then lib.resize s.img targetWh targetWh
    else lib.thumbnail s.img targetWh targetWh
  match s.encodeImg lib newImg ofmt with
  | .error e => .error e
  | .ok s =>
    if s.encoded.length > maxBytes ∧ isAvatar then
      if _h : targetWh < 20 then .error (.failedToScale maxBytes)
      else scaleLoop ofmt maxBytes isAvatar (targetWh * 7 / 8) s
    else .ok s
termination_by targetWh

def recode (img : I) (fmt : ImageFormat) (exif : Option O) (nrBytes maxWh maxBytes : ℕ)
    (isAvatar : Bool) : Except (RecodeError E) (Option (Canvas I)) :=
  let exceedsMaxBytes : Bool := nrBytes > maxBytes
  let ofmt := outputFormat fmt exceedsMaxBytes
  match doScale lib ⟨img, isAvatar && fmt ≠ .jpeg, [], none⟩ ofmt exif maxWh maxBytes exceedsMaxBytes
      isAvatar with
  | .error e => .error e
  | .ok (scale, s) =>
    match if scale then scaleLoop lib ofmt maxBytes isAvatar (targetWh lib s.img maxWh isAvatar) s
      else .ok s with
    | .error e => .error e
    | .ok s =>
      if scale || exif.isSome then
        if s.encoded = [] then
          let s := s.takeWhiteBg lib
          (s.encodeImg lib s.img ofmt).map some
        else .ok (some s)
      else .ok none

/-- the closure; `withExtensionJpg` is that of `Path`, `create` writes a blob and returns its name -/
def tryRecode (file : ImageFile I O E) (withExtensionJpg : String → String)
    (create : List UInt8 → String → Except E String) (name : String) (viewtype : Viewtype)
    (maxWh maxBytes : ℕ) (isAvatar : Bool) : Except (RecodeError E) (Recoded I) :=
  match file.opened, file.format with
  | .error e, _ => .error (.io e)
  | _, .error e => .error (.io e)
  | _, .ok none => .error .unknownFormat
  | .ok (), .ok (some fmt) =>
    if viewtype = .file then .ok { name, viewtype := .image }
    else
      match file.decoded with
      | .error e => .error (.decode e)
      | .ok img =>
        if viewtype = .sticker ∧ !hasOpaqueCorners lib img then .ok { name, viewtype }
        else
          let viewtype := if viewtype = .sticker then .image else viewtype
          let img := lib.applyOrientation img (file.exif.getD lib.noTransforms)
          match recode lib img fmt file.exif file.bytes.length maxWh maxBytes isAvatar with
          | .error e => .error e
          | .ok none => .ok { name, viewtype }
          | .ok (some s) =>
            let ofmt := outputFormat fmt (file.bytes.length > maxBytes)
            let name := if fmt ≠ .jpeg ∧ ofmt ≠ .png then withExtensionJpg name else name
            match create s.encoded name with
            | .error e => .error (.write e)
            | .ok blob => .ok { name, viewtype, written := some (blob, s) }

def checkOrRecodeToSize (file : ImageFile I O E) (withExtensionJpg : String → String)
    (create : List UInt8 → String → Except E String) (name : String) (viewtype : Viewtype)
    (maxWh maxBytes : ℕ) (isAvatar : Bool) : Except (RecodeError E) (Recoded I) :=
  match tryRecode lib file withExtensionJpg create name viewtype maxWh maxBytes isAvatar with
  | .ok r => .ok r
  | .error e =>
    if !isAvatar && file.opened.isOk && file.exif.isNone then .ok { name, viewtype := .file }
    else .error e

/-- `MediaQuality::from_i32(..).unwrap_or_default()`, and the limits of an avatar -/
def avatarLimits (mediaQuality : ℤ) : ℕ × ℕ := if mediaQuality = 1 then (256, 20000) else (512, 60000)

def recodeToAvatarSize (mediaQuality : Except E ℤ) (file : ImageFile I O E)
    (withExtensionJpg : String → String) (create : List UInt8 → String → Except E String)
    (blobName : String) : Except (RecodeError E) (Recoded I) :=
  match mediaQuality with
  | .error e => .error (.io e)
  | .ok quality =>
    let (maxWh, maxBytes) := avatarLimits quality
    checkOrRecodeToSize lib file withExtensionJpg create blobName .image maxWh maxBytes true

def Fits (img : I) (maxWh : ℕ) : Prop := lib.width img ≤ maxWh ∧ lib.height img ≤ maxWh

theorem foldl_putPixel (f : I → ℕ → I)
    (hf : ∀ img x, lib.width (f img x) = lib.width img ∧ lib.height (f img x) = lib.height img)
    (l : List ℕ) (img : I) :
    lib.width (l.foldl f img) = lib.width img ∧ lib.height (l.foldl f img) = lib.height img := by
  induction l generalizing img with
  | nil => exact ⟨rfl, rfl⟩
  | cons x l ih =>
    rw [List.foldl_cons, (ih _).1, (ih _).2]
    exact hf img x

theorem fits_takeWhiteBg (h : Fits lib s.img maxWh) : Fits lib (s.takeWhiteBg lib).img maxWh := by
  have hsame : lib.width (addWhiteBg lib s.img) = lib.width s.img ∧
      lib.height (addWhiteBg lib s.img) = lib.height s.img := by
    apply foldl_putPixel
    intro img y
    apply foldl_putPixel
    exact fun img x => ⟨lib.width_putPixel _ _ _ _, lib.height_putPixel _ _ _ _⟩
  unfold Canvas.takeWhiteBg
  split
  · exact ⟨hsame.1.trans_le h.1, hsame.2.trans_le h.2⟩
  · exact h

/-! ## what is encoded -/

/-- the buffer shows an image that fits, and is not too large -/
structure Encoded (ofmt : ImageOutputFormat) (maxWh maxBytes : ℕ) (s : Canvas I) : Prop where
  shown : ∃ img, s.shows = some img ∧ lib.encode img ofmt = .ok s.encoded ∧ Fits lib img maxWh
  small : s.encoded.length ≤ maxBytes

theorem encodeImg_ok {s' : Canvas I} {fmt : ImageOutputFormat}
    (h : s.encodeImg lib img fmt = .ok s') :
    lib.encode img fmt = .ok s'.encoded ∧ s' = { s with encoded := s'.encoded, shows := some img } := by
  unfold Canvas.encodeImg at h
  split at h
  · cases h
  · next bytes hbytes =>
    cases h
    exact ⟨hbytes, rfl⟩

def NeverEmpty : Prop :=
  ∀ img w fmt, lib.encode (lib.resize img w w) fmt ≠ .ok []

theorem scaleLoop_spec (target : ℕ) (htarget : target ≤ maxWh) {s' : Canvas I}
    (h : scaleLoop lib ofmt maxBytes true target s = .ok s') :
    Encoded lib ofmt maxWh maxBytes s' ∧ (NeverEmpty lib → s'.encoded ≠ []) := by
  -- the loop starts again with a smaller target only
  induction target using Nat.strong_induction_on generalizing s with
  | _ target ih =>
    rw [scaleLoop] at h
    simp only [if_true, and_true] at h
    split at h
    · cases h
    · next s₁ hs₁ =>
      obtain ⟨hencode, hs⟩ := encodeImg_ok lib hs₁
      split at h
      · split at h
        · cases h
        · exact ih (target * 7 / 8) (by omega) (by omega) h
      · next hsmall =>
        cases h
        have hfits := lib.resize_fits (s.takeWhiteBg lib).img target
        refine ⟨⟨⟨_, by rw [hs], hencode, hfits.1.trans htarget, hfits.2.trans htarget⟩, by omega⟩, ?_⟩
        exact fun hne hnil => hne _ _ _ (hnil ▸ hencode)

theorem takeWhiteBg_twice (s : Canvas I) : (s.takeWhiteBg lib).addWhiteBg = false := by
  unfold Canvas.takeWhiteBg
  split
  · rfl
  · next h => simpa using h

theorem doScale_spec {white : Bool} {exif : Option O} {exceedsMaxBytes : Bool}
    (h : doScale lib ⟨img, white, [], none⟩ ofmt exif maxWh maxBytes exceedsMaxBytes true =
      .ok (false, s)) :
    exceedsMaxBytes = false ∧ Fits lib img maxWh ∧
      (exif.isSome = true → Encoded lib ofmt maxWh maxBytes s ∧ s.addWhiteBg = false ∧
        s.shows = some s.img) := by
  unfold doScale at h
  simp only [Bool.not_true, Bool.false_eq_true, if_false] at h
  split at h
  · cases h
  · next hbytes =>
    split at h
    · cases h
    · next hwh =>
      have hfits : Fits lib img maxWh := by
        simp only [not_or, not_lt] at hwh
        exact hwh
      refine ⟨by simpa using hbytes, hfits, fun hsome => ?_⟩
      rw [Option.isNone_eq_false_iff.mpr hsome, if_neg Bool.false_ne_true] at h
      split at h
      · cases h
      · next s₁ hs₁ =>
        obtain ⟨hencode, hs⟩ := encodeImg_ok lib hs₁
        simp only [Except.ok.injEq, Prod.mk.injEq, decide_eq_false_iff_not, not_lt] at h
        obtain ⟨hsmall, rfl⟩ := h
        have hwhite := fits_takeWhiteBg lib (s := ⟨img, white, [], none⟩) hfits
        refine ⟨⟨⟨_, by rw [hs], hencode, hwhite⟩, hsmall⟩, ?_, ?_⟩
        · rw [hs]
          exact takeWhiteBg_twice lib _
        · rw [hs]

theorem targetWh_le (img : I) (maxWh : ℕ) : targetWh lib img maxWh true ≤ maxWh := by
  simp only [targetWh, Bool.not_true, Bool.false_eq_true, if_false]
  omega

theorem encode_again (hs : Encoded lib ofmt maxWh maxBytes s) (hwhite : s.addWhiteBg = false)
    (hshows : s.shows = some s.img) :
    (s.takeWhiteBg lib).encodeImg lib (s.takeWhiteBg lib).img ofmt = .ok s := by
  obtain ⟨img, himg, hencode, -⟩ := hs.shown
  rw [hshows, Option.some.injEq] at himg
  subst himg
  have htake : s.takeWhiteBg lib = s := by simp [Canvas.takeWhiteBg, hwhite]
  rw [htake, Canvas.encodeImg, hencode, ← hshows]

theorem recode_spec {fmt : ImageFormat} {exif : Option O} {nrBytes : ℕ} {r : Option (Canvas I)}
    (hne : NeverEmpty lib) (h : recode lib img fmt exif nrBytes maxWh maxBytes true = .ok r) :
    (r = none → exif = none ∧ nrBytes ≤ maxBytes ∧ Fits lib img maxWh) ∧
    ∀ s, r = some s → Encoded lib (outputFormat fmt (nrBytes > maxBytes)) maxWh maxBytes s := by
  unfold recode at h
  dsimp only at h
  split at h
  · cases h
  · next scale s hscale =>
    cases scale with
    | true =>
      simp only [if_true, Bool.true_or] at h
      split at h
      · cases h
      · next s₁ hs₁ =>
        obtain ⟨hencoded, hnil⟩ := scaleLoop_spec lib _ (targetWh_le lib _ _) hs₁
        rw [if_neg (hnil hne)] at h
        cases h
        exact ⟨nofun, fun s hs => Option.some.inj hs ▸ hencoded⟩
    | false =>
      obtain ⟨hbytes, hfits, hexif⟩ := doScale_spec lib hscale
      simp only [Bool.false_eq_true, if_false, Bool.false_or] at h
      cases exif with
      | none =>
        cases h
        exact ⟨fun _ => ⟨rfl, by simpa using hbytes, hfits⟩, nofun⟩
      | some o =>
        obtain ⟨hencoded, hwhite, hshows⟩ := hexif rfl
        have hr : r = some s := by
          simp only [Option.isSome_some, if_true, encode_again lib hencoded hwhite hshows] at h
          split at h <;> exact (Except.ok.inj h).symm
        rw [hr]
        exact ⟨nofun, fun s' hs' => Option.some.inj hs' ▸ hencoded⟩

/-! ## the blob -/

/-- the blob that is left: its contents, and the image that they show -/
def Recoded.blob (file : ImageFile I O E) (r : Recoded I) : Option (List UInt8 × I) :=
  match r.written with
  | some (_, s) => s.shows.map (s.encoded, ·)
  | none => file.decoded.toOption.map (file.bytes, ·)

theorem tryRecode_image {file : ImageFile I O E} {withExtensionJpg : String → String}
    {create : List UInt8 → String → Except E String} {name : String} {isAvatar : Bool}
    {r : Recoded I}
    (h : tryRecode lib file withExtensionJpg create name .image maxWh maxBytes isAvatar = .ok r) :
    ∃ fmt img, file.decoded = .ok img ∧
      recode lib (lib.applyOrientation img (file.exif.getD lib.noTransforms)) fmt file.exif
        file.bytes.length maxWh maxBytes isAvatar = .ok (r.written.map Prod.snd) := by
  unfold tryRecode at h
  split at h
  · cases h
  · cases h
  · cases h
  · next fmt _ _ =>
    simp only [reduceCtorEq, if_false, false_and] at h
    split at h
    · cases h
    · next img himg =>
      refine ⟨fmt, img, himg, ?_⟩
      split at h
      · cases h
      · next hrecode =>
        cases h
        exact hrecode
      · next s hrecode =>
        split at h
        · cases h
        · cases h
          exact hrecode

end

/-- **within the limits.** For every encoder that does not encode a resized image as nothing: if
`recode_to_avatar_size` returns `Ok`, the blob that is left has the width, the height and the number of
bytes that the media quality allows, and with Exif data it is an encoding of the image it shows -/
theorem avatar_within_limits {I O E : Type} (lib : ImageLib I O E) (hne : NeverEmpty lib)
    (mediaQuality : Except E ℤ) (file : ImageFile I O E) (withExtensionJpg : String → String)
    (create : List UInt8 → String → Except E String) (blobName : String) (r : Recoded I)
    (h : recodeToAvatarSize lib mediaQuality file withExtensionJpg create blobName = .ok r) :
    ∃ quality blob img, mediaQuality = .ok quality ∧ r.blob file = some (blob, img) ∧
      lib.width img ≤ (avatarLimits quality).1 ∧ lib.height img ≤ (avatarLimits quality).1 ∧
      blob.length ≤ (avatarLimits quality).2 ∧
      (file.exif.isSome = true → r.written.isSome = true ∧ ∃ fmt, lib.encode img fmt = .ok blob) := by
  unfold recodeToAvatarSize at h
  split at h
  · cases h
  · next quality =>
    have htry : tryRecode lib file withExtensionJpg create blobName .image (avatarLimits quality).1
        (avatarLimits quality).2 true = .ok r := by
      unfold checkOrRecodeToSize at h
      dsimp only at h
      split at h
      · next hok => rwa [hok]
      · cases h
    obtain ⟨fmt, img, himg, hrecode⟩ := tryRecode_image lib htry
    obtain ⟨hnone, hsome⟩ := recode_spec lib hne hrecode
    cases hwritten : r.written with
    | none =>
      rw [hwritten] at hnone
      obtain ⟨hexif, hbytes, hfits⟩ := hnone rfl
      rw [hexif, Option.getD_none, lib.apply_noTransforms] at hfits
      refine ⟨quality, file.bytes, img, rfl, ?_, hfits.1, hfits.2, hbytes, by simp [hexif]⟩
      simp [Recoded.blob, hwritten, himg, Except.toOption]
    | some w =>
      rw [hwritten] at hsome
      obtain ⟨⟨shown, hshows, hencode, hfits⟩, hsmall⟩ := hsome w.2 rfl
      refine ⟨quality, w.2.encoded, shown, rfl, ?_, hfits.1, hfits.2, hsmall,
        fun _ => ⟨rfl, _, hencode⟩⟩
      simp [Recoded.blob, hwritten, hshows]

def squares (encode : ℕ → List UInt8) : ImageLib ℕ Unit Unit where
  width n := n
  height n := n
  getPixel _ _ _ := ⟨0, 0, 0, 0⟩
  putPixel n _ _ _ := n
  blend p _ := p
  noTransforms := ()
  applyOrientation n _ := n
  resize n w h := min n (min w h)
  thumbnail n w h := min n (min w h)
  resolutionLimit _ _ _ := none
  encode n _ := .ok (encode n)
  width_putPixel _ _ _ _ := rfl
  height_putPixel _ _ _ _ := rfl
  apply_noTransforms _ := rfl
  resize_fits n w := by omega

def jpeg (side : ℕ) (exif : Option Unit) : ImageFile ℕ Unit Unit where
  bytes := [1]
  exif := exif
  opened := .ok ()
  format := .ok (some .jpeg)
  decoded := .ok side

/-- a small image with Exif data is encoded again -/
theorem avatar_within_limits_exif :
    ∃ r, recodeToAvatarSize (squares fun _ => [0]) (.ok 1) (jpeg 100 (some ())) id (fun _ n => .ok n)
        "avatar.jpg" = .ok r ∧ r.written.isSome = true := by
  refine ⟨_, rfl, ?_⟩
  obtain ⟨_, _, _, -, -, -, -, -, hexif⟩ := avatar_within_limits (squares fun _ => [0]) nofun (.ok 1)
    (jpeg 100 (some ())) id (fun _ n => .ok n) "avatar.jpg" _ rfl
  exact (hexif rfl).1

def hollow : ImageLib ℕ Unit Unit := squares fun n => if n ≤ 512 then [] else [0]

/-- the image of 1000 pixels is scaled to 512, and then written as it was -/
theorem unscaled_blob :
    ∃ r, recodeToAvatarSize hollow (.ok 0) (jpeg 1000 none) id (fun _ n => .ok n) "a.jpg" = .ok r ∧
      r.blob (jpeg 1000 none) = some ([0], 1000) ∧ (avatarLimits 0).1 = 512 := by
  have hloop : scaleLoop hollow (.jpeg 75) 60000 true 512 ⟨1000, false, [], none⟩ =
      .ok ⟨1000, false, [], some 512⟩ := by
    rw [scaleLoop]
    rfl
  have hrecode : recode hollow 1000 .jpeg none 1 512 60000 true =
      .ok (some ⟨1000, false, [0], some 1000⟩) := by
    have hofmt : outputFormat .jpeg (decide (1 > 60000)) = .jpeg 75 := rfl
    have hscale : doScale hollow ⟨1000, true && decide (ImageFormat.jpeg ≠ .jpeg), [], none⟩ (.jpeg 75)
        none 512 60000 (decide (1 > 60000)) true = .ok (true, ⟨1000, false, [], none⟩) := rfl
    have htarget : targetWh hollow 1000 512 true = 512 := rfl
    simp only [recode, hofmt, hscale, if_true, htarget, hloop]
    rfl
  refine ⟨⟨"a.jpg", .image, some ("a.jpg", ⟨1000, false, [0], some 1000⟩)⟩, ?_, rfl, rfl⟩
  have htry : tryRecode hollow (jpeg 1000 none) id (fun _ n => .ok n) "a.jpg" .image 512 60000 true =
      .ok ⟨"a.jpg", .image, some ("a.jpg", ⟨1000, false, [0], some 1000⟩)⟩ := by
    have happly :
        hollow.applyOrientation 1000 ((none : Option Unit).getD hollow.noTransforms) = 1000 := rfl
    simp only [tryRecode, jpeg, reduceCtorEq, if_false, false_and, happly, List.length_singleton,
      hrecode]
    rfl
  show checkOrRecodeToSize hollow (jpeg 1000 none) id (fun _ n => .ok n) "a.jpg" .image 512 60000
    true = _
  rw [checkOrRecodeToSize, htry]

end Recode
end EpsilonChat.Blob
