/-
  Feedcast.Carousels.Zip — slides on their way out, as one archive
  (`api/v1/endpoints/carousels.py`, `schemas/carousel.py`).

  The browser sends each slide as a data URL.  The schema bounds its length, the
  loop decodes it and counts what it decoded, and the stamp comes after the
  loop:

    • `b64decode_encode`, `dataUrl_bounded` — what the browser encodes is
      accepted, and decodes to itself,
    • `archiveSlides_iff` — when the loop gets through, and with what,
    • `memberName_lt` — the names sort as the slides do,
    • `zip_roundtrip` — hence when a request is answered, and what it leaves.
-/
import Feedcast.Core.Hashing
import Feedcast.Api.Carousels

namespace Feedcast

open Feedcast.Lib

/-! ## §1. What the browser sends. -/

def base64Alphabet : Str :=
  "ABCDEFGHIJKLMNOPQRSTUVWXYZabcdefghijklmnopqrstuvwxyz0123456789+/".toList

def base64Digit (n : Nat) : Char := base64Alphabet.getD n '='

/-- Standard base64: three bytes are four digits, and padding fills up the last
four. -/
def b64encode : List UInt8 → Str
  | [] => []
  | [a] => [base64Digit (a.toNat / 4), base64Digit (a.toNat % 4 * 16), '=', '=']
  | [a, b] =>
      [base64Digit (a.toNat / 4), base64Digit (a.toNat % 4 * 16 + b.toNat / 16),
        base64Digit (b.toNat % 16 * 4), '=']
  | a :: b :: c :: rest =>
      base64Digit (a.toNat / 4) :: base64Digit (a.toNat % 4 * 16 + b.toNat / 16)
        :: base64Digit (b.toNat % 16 * 4 + c.toNat / 64) :: base64Digit (c.toNat % 64)
        :: b64encode rest

/-- The data URL of a JPEG. -/
def dataUrl (bytes : List UInt8) : Str := jpegPrefix ++ b64encode bytes

theorem base64Value_digit : ∀ n < 64, base64Value (base64Digit n) = some n := by
  decide +kernel

theorem base64Digit_ne_pad : ∀ n < 64, base64Digit n ≠ '=' := by
  decide +kernel

/-- Two digits and their padding are a byte. -/
theorem b64decode_single {w x : Nat} (hw : w < 64) (hx : x < 64) :
    b64decode [base64Digit w, base64Digit x, '=', '=']
      = some [UInt8.ofNat ((w * 64 + x) / 16)] := by
  rw [b64decode, base64Value_digit w hw, base64Value_digit x hx]
  rfl

/-- Three digits and their padding are two bytes. -/
theorem b64decode_pair {w x y : Nat} (hw : w < 64) (hx : x < 64) (hy : y < 64) :
    b64decode [base64Digit w, base64Digit x, base64Digit y, '=']
      = some [UInt8.ofNat (((w * 64 + x) * 64 + y) / 1024),
          UInt8.ofNat (((w * 64 + x) * 64 + y) / 4 % 256)] := by
  have hpad := base64Digit_ne_pad y hy
  rw [b64decode]
  · rw [base64Value_digit w hw, base64Value_digit x hx, base64Value_digit y hy]
    rfl
  · intro heq
    exact hpad heq

/-- Four digits are three bytes. -/
theorem b64decode_quad {w x y z : Nat} (hw : w < 64) (hx : x < 64) (hy : y < 64) (hz : z < 64)
    (rest : Str) :
    b64decode (base64Digit w :: base64Digit x :: base64Digit y :: base64Digit z :: rest)
      = (b64decode rest).map fun bytes =>
          UInt8.ofNat ((((w * 64 + x) * 64 + y) * 64 + z) / 65536)
            :: UInt8.ofNat ((((w * 64 + x) * 64 + y) * 64 + z) / 256 % 256)
            :: UInt8.ofNat ((((w * 64 + x) * 64 + y) * 64 + z) % 256) :: bytes := by
  -- the fourth digit is no padding, so this is a whole group
  have hpad := base64Digit_ne_pad z hz
  rw [b64decode]
  · simp only [base64Value_digit w hw, base64Value_digit x hx, base64Value_digit y hy,
      base64Value_digit z hz]
    cases b64decode rest with
    | none => rfl
    | some bytes => rfl
  · intro _ heq _
    exact hpad heq
  · intro heq _
    exact hpad heq

theorem ofNat_byte {n : Nat} {a : UInt8} (h : n = a.toNat) : UInt8.ofNat n = a := by
  rw [h]
  exact UInt8.ofNat_toNat

/-- **What is encoded decodes to itself.** -/
theorem b64decode_encode (bytes : List UInt8) : b64decode (b64encode bytes) = some bytes := by
  -- a group of three bytes, or the one or two that are left
  induction bytes using b64encode.induct with
  | case1 =>
      unfold b64encode
      rfl
  | case2 a =>
      have ha := a.toNat_lt
      have hfirst := @ofNat_byte ((a.toNat / 4 * 64 + a.toNat % 4 * 16) / 16) a (by omega)
      unfold b64encode
      rw [b64decode_single (by omega) (by omega), hfirst]
  | case3 a b =>
      have ha := a.toNat_lt
      have hb := b.toNat_lt
      have hfirst := @ofNat_byte (((a.toNat / 4 * 64 + (a.toNat % 4 * 16 + b.toNat / 16)) * 64
        + b.toNat % 16 * 4) / 1024) a (by omega)
      have hsecond := @ofNat_byte (((a.toNat / 4 * 64 + (a.toNat % 4 * 16 + b.toNat / 16)) * 64
        + b.toNat % 16 * 4) / 4 % 256) b (by omega)
      unfold b64encode
      rw [b64decode_pair (by omega) (by omega) (by omega), hfirst, hsecond]
  | case4 a b c rest ih =>
      have ha := a.toNat_lt
      have hb := b.toNat_lt
      have hc := c.toNat_lt
      have hfirst := @ofNat_byte ((((a.toNat / 4 * 64 + (a.toNat % 4 * 16 + b.toNat / 16)) * 64
        + (b.toNat % 16 * 4 + c.toNat / 64)) * 64 + c.toNat % 64) / 65536) a (by omega)
      have hsecond := @ofNat_byte ((((a.toNat / 4 * 64 + (a.toNat % 4 * 16 + b.toNat / 16)) * 64
        + (b.toNat % 16 * 4 + c.toNat / 64)) * 64 + c.toNat % 64) / 256 % 256) b (by omega)
      have hthird := @ofNat_byte ((((a.toNat / 4 * 64 + (a.toNat % 4 * 16 + b.toNat / 16)) * 64
        + (b.toNat % 16 * 4 + c.toNat / 64)) * 64 + c.toNat % 64) % 256) c (by omega)
      unfold b64encode
      rw [b64decode_quad (by omega) (by omega) (by omega) (by omega), ih, hfirst, hsecond, hthird]
      rfl

theorem b64encode_length (bytes : List UInt8) :
    (b64encode bytes).length = 4 * ((bytes.length + 2) / 3) := by
  induction bytes using b64encode.induct with
  | case1 => simp [b64encode]
  | case2 a => simp [b64encode]
  | case3 a b => simp [b64encode]
  | case4 a b c rest ih =>
      unfold b64encode
      simp only [List.length_cons, ih]
      omega

theorem jpegPrefix_length : jpegPrefix.length = 23 := by decide

/-- **An image within its cap is within the bound of the schema.** -/
theorem dataUrl_bounded {settings : Settings} {bytes : List UInt8}
    (h : bytes.length ≤ settings.zipMaxBytesPerImage) :
    1 ≤ (dataUrl bytes).length ∧ (dataUrl bytes).length ≤ settings.maxEncodedImage := by
  have hlength : (dataUrl bytes).length = 23 + 4 * ((bytes.length + 2) / 3) := by
    unfold dataUrl
    rw [List.length_append, jpegPrefix_length, b64encode_length]
  rw [hlength]
  unfold Settings.maxEncodedImage
  omega

/-! ## §2. What the loop takes. -/

/-- An image that carries the prefix and valid base64, of these bytes. -/
def Carries (image : Str) (payload : List UInt8) : Prop :=
  ∃ text, image = jpegPrefix ++ text ∧ b64decode text = some payload

theorem decodeJpeg_ok {image : Str} {payload : List UInt8} :
    decodeJpeg image = .ok payload ↔ Carries image payload := by
  unfold decodeJpeg Carries
  by_cases hprefix : jpegPrefix.isPrefixOf image = true
  · rw [if_pos hprefix]
    obtain ⟨text, rfl⟩ := List.isPrefixOf_iff_prefix.mp hprefix
    rw [List.drop_left]
    -- what stands behind the prefix is determined
    have hsame : (∃ text', jpegPrefix ++ text = jpegPrefix ++ text'
        ∧ b64decode text' = some payload) ↔ b64decode text = some payload := by
      constructor
      · intro h
        obtain ⟨text', heq, hdecode⟩ := h
        rw [List.append_cancel_left heq]
        exact hdecode
      · intro h
        exact ⟨text, rfl, h⟩
    rw [hsame]
    cases b64decode text with
    | none => simp
    | some bytes => simp
  · rw [if_neg hprefix]
    constructor
    · intro h
      cases h
    · intro h
      obtain ⟨text, rfl, -⟩ := h
      exact absurd (List.isPrefixOf_iff_prefix.mpr (List.prefix_append _ _)) hprefix

theorem dataUrl_carries (bytes : List UInt8) : Carries (dataUrl bytes) bytes :=
  ⟨b64encode bytes, rfl, b64decode_encode bytes⟩

/-! ## §3. The loop. -/

/-- The name of the slide at this place. -/
def memberName (index : Nat) : Str := "slide-".toList ++ twoDigits index ++ ".jpg".toList

/-- The archive of these payloads, from this place on. -/
def archiveOf (index : Nat) (payloads : List (List UInt8)) : List (Str × List UInt8) :=
  ((List.range' index payloads.length).map memberName).zip payloads

/-- The running total never exceeds the cap. -/
def WithinTotal (settings : Settings) (total : Nat) (payloads : List (List UInt8)) : Prop :=
  ∀ k, total + ((payloads.take k).map List.length).sum ≤ settings.zipMaxTotalBytes

/-- The first payload counts, and then the others do. -/
theorem withinTotal_cons {settings : Settings} {total : Nat} {payload : List UInt8}
    {payloads : List (List UInt8)} (htotal : total ≤ settings.zipMaxTotalBytes) :
    WithinTotal settings total (payload :: payloads)
      ↔ WithinTotal settings (total + payload.length) payloads := by
  constructor
  -- every prefix of the members is within the total
  · intro h k
    have hnext := h (k + 1)
    rw [List.take_succ_cons, List.map_cons, List.sum_cons] at hnext
    omega
  · intro h k
    cases k with
    | zero => exact htotal
    | succ k =>
        have hnext := h k
        rw [List.take_succ_cons, List.map_cons, List.sum_cons]
        omega

/-- Payloads that fit together fit all along. -/
theorem withinTotal_of_sum {settings : Settings} {total : Nat} {payloads : List (List UInt8)}
    (h : total + (payloads.map List.length).sum ≤ settings.zipMaxTotalBytes) :
    WithinTotal settings total payloads := by
  intro k
  have hsplit : (payloads.map List.length).sum
      = ((payloads.take k).map List.length).sum + ((payloads.drop k).map List.length).sum := by
    rw [← List.sum_append, ← List.map_append, List.take_append_drop]
  omega

/-- One round of the loop. -/
theorem archiveSlides_cons {settings : Settings} {index total : Nat} {image : Str}
    {images : List Str} {members : List (Str × List UInt8)} :
    archiveSlides settings index total (image :: images) = .ok members ↔
      ∃ payload rest, Carries image payload
        ∧ total + payload.length ≤ settings.zipMaxTotalBytes
        ∧ archiveSlides settings (index + 1) (total + payload.length) images = .ok rest
        ∧ members = (memberName index, payload) :: rest := by
  rw [archiveSlides, except_bind_ok]
  constructor
  · intro h
    obtain ⟨payload, hdecode, h⟩ := h
    -- the total is checked after each image, before the next is decoded
    by_cases hcap : total + payload.length ≤ settings.zipMaxTotalBytes
    · rw [if_neg (not_lt.mpr hcap)] at h
      obtain ⟨rest, hrest, hmembers⟩ := except_bind_ok.mp h
      exact ⟨payload, rest, decodeJpeg_ok.mp hdecode, hcap, hrest, (Except.ok.inj hmembers).symm⟩
    · rw [if_pos (not_le.mp hcap)] at h
      cases h
  · intro h
    obtain ⟨payload, rest, hcarry, hcap, hrest, rfl⟩ := h
    refine ⟨payload, decodeJpeg_ok.mpr hcarry, ?_⟩
    rw [if_neg (not_lt.mpr hcap)]
    exact except_bind_ok.mpr ⟨rest, hrest, rfl⟩

/-- **When the loop gets through, and with what.** -/
theorem archiveSlides_iff {settings : Settings} {index total : Nat} {images : List Str}
    {members : List (Str × List UInt8)} (htotal : total ≤ settings.zipMaxTotalBytes) :
    archiveSlides settings index total images = .ok members ↔
      ∃ payloads, List.Forall₂ Carries images payloads ∧ WithinTotal settings total payloads
        ∧ members = archiveOf index payloads := by
  induction images generalizing index total members with
  | nil =>
      constructor
      · intro h
        cases h
        exact ⟨[], List.Forall₂.nil, fun k => by simpa using htotal, rfl⟩
      · intro h
        obtain ⟨payloads, hcarry, -, rfl⟩ := h
        cases hcarry
        rfl
  | cons image images ih =>
      rw [archiveSlides_cons]
      constructor
      · intro h
        obtain ⟨payload, rest, hcarry, hcap, hrest, rfl⟩ := h
        obtain ⟨payloads, hcarries, hwithin, rfl⟩ := (ih hcap).mp hrest
        exact ⟨payload :: payloads, List.Forall₂.cons hcarry hcarries,
          (withinTotal_cons htotal).mpr hwithin, rfl⟩
      · intro h
        obtain ⟨payloads, hcarries, hwithin, rfl⟩ := h
        cases hcarries with
        | cons hcarry hcarries =>
            -- the bound at no further image is the one checked here
            have hrest := (withinTotal_cons htotal).mp hwithin
            have hcap : _ ≤ settings.zipMaxTotalBytes := hrest 0
            exact ⟨_, _, hcarry, hcap, (ih hcap).mpr ⟨_, hcarries, hrest, rfl⟩, rfl⟩

/-! ## §4. The names. -/

theorem memberName_succ : ∀ index < 99, memberName index < memberName (index + 1) := by
  decide +kernel

/-- **The names sort as the slides do**, up to the ninety-ninth. -/
theorem memberName_lt {i j : Nat} (hlt : i < j) (hj : j ≤ 99) : memberName i < memberName j := by
  induction j with
  | zero => omega
  | succ j ih =>
      have hstep := memberName_succ j (by omega)
      by_cases heq : i = j
      · rw [heq]
        exact hstep
      · exact (ih (by omega) (by omega)).trans hstep

theorem archiveOf_names (payloads : List (List UInt8)) (hcount : payloads.length ≤ 99) :
    ((archiveOf 1 payloads).map (·.1)).Pairwise (· < ·) := by
  have hnames : (archiveOf 1 payloads).map (·.1)
      = (List.range' 1 payloads.length).map memberName := by
    unfold archiveOf
    exact List.map_fst_zip (by simp)
  rw [hnames, List.pairwise_map]
  refine (List.pairwise_lt_range' ..).imp_of_mem ?_
  intro i j _ hj hlt
  have hle := List.mem_range'_1.mp hj
  exact memberName_lt hlt (by omega)

theorem archiveOf_payloads (payloads : List (List UInt8)) :
    (archiveOf 1 payloads).map (·.2) = payloads := by
  unfold archiveOf
  exact List.map_snd_zip (by simp)

/-! ## §5. The request. -/

/-- Every image carries the prefix and valid base64, and what they decode to
never exceeds the total. -/
def ImagesFit (settings : Settings) (images : List Str) : Prop :=
  ∃ payloads, List.Forall₂ Carries images payloads ∧ WithinTotal settings 0 payloads

/-- **What a request that is answered leaves**: the payloads in order, under
names that are distinct and sort in that order, and the stamp on the carousel. -/
structure Bundled (db db' : Db) (carouselId : Nat) (images : List Str) (now : Time)
    (members : List (Str × List UInt8)) : Prop where
  payloads : List.Forall₂ Carries images (members.map (·.2))
  distinct : (members.map (·.1)).Nodup
  sorted : (members.map (·.1)).Pairwise (· < ·)
  stamped : ∃ carousel, db.getCarousel carouselId = some carousel
    ∧ db' = db.putCarousel { carousel with lastDownloadedAt := some now }

section Request

variable {settings : Settings} {db : Db} {carouselId : Nat} {data : ZipRequest settings}
  {now : Time}

/-- **When a request is answered.** -/
theorem zipSlides_answered :
    (∃ db' members, zipSlides settings db carouselId data now = .ok (db', members))
      ↔ ImagesFit settings data.images ∧ ∃ carousel, db.getCarousel carouselId = some carousel := by
  constructor
  · intro h
    obtain ⟨db', members, hok⟩ := h
    obtain ⟨carousel, harchive, hget, -⟩ := zipSlides_ok hok
    obtain ⟨payloads, hcarry, hwithin, -⟩ := (archiveSlides_iff (Nat.zero_le _)).mp harchive
    exact ⟨⟨payloads, hcarry, hwithin⟩, carousel, hget⟩
  · intro h
    obtain ⟨⟨payloads, hcarry, hwithin⟩, carousel, hget⟩ := h
    -- the images are decoded first; the carousel is looked up after that
    have harchive : archiveSlides settings 1 0 data.images = .ok (archiveOf 1 payloads) :=
      (archiveSlides_iff (Nat.zero_le _)).mpr ⟨payloads, hcarry, hwithin, rfl⟩
    unfold zipSlides
    exact ⟨_, _, except_bind_ok.mpr ⟨_, harchive,
      except_bind_ok.mpr ⟨_, loadCarousel_ok.mpr ⟨carousel, hget, rfl⟩, rfl⟩⟩⟩

/-- **What it leaves.** -/
theorem zipSlides_bundled (hcount : data.images.length ≤ 99) {db' : Db}
    {members : List (Str × List UInt8)}
    (h : zipSlides settings db carouselId data now = .ok (db', members)) :
    Bundled db db' carouselId data.images now members := by
  obtain ⟨carousel, harchive, hget, hstamp⟩ := zipSlides_ok h
  obtain ⟨payloads, hcarry, -, rfl⟩ := (archiveSlides_iff (Nat.zero_le _)).mp harchive
  -- two digits are enough up to 99, so the names sort as the numbers
  have hsorted := archiveOf_names payloads (hcarry.length_eq ▸ hcount)
  exact {
    payloads := by
      rw [archiveOf_payloads]
      exact hcarry
    distinct := hsorted.imp fun hlt => ne_of_lt hlt
    sorted := hsorted
    stamped := ⟨carousel, hget, hstamp⟩ }

end Request

/-- **IMAGES WITHIN THE CAPS GO OUT AS THEY CAME**, in order and under names that
keep it, and the carousel is stamped exactly if they do. -/
theorem zip_roundtrip (P : Platform) (settings : Settings) :
    (∀ bytes : List UInt8, bytes.length ≤ settings.zipMaxBytesPerImage →
      1 ≤ (dataUrl bytes).length ∧ (dataUrl bytes).length ≤ settings.maxEncodedImage
        ∧ Carries (dataUrl bytes) bytes)
    ∧ ∀ (db : Db) (carouselId : Nat) (data : ZipRequest settings) (now : Time),
        data.images.length ≤ 99 →
          ((∃ db' members, zipSlides settings db carouselId data now = .ok (db', members))
            ↔ ImagesFit settings data.images
              ∧ ∃ carousel, db.getCarousel carouselId = some carousel)
          ∧ (∀ db' members, zipSlides settings db carouselId data now = .ok (db', members) →
              Bundled db db' carouselId data.images now members)
          ∧ ∀ e, zipSlides settings db carouselId data now = .error e →
              carouselStep P db (.zip carouselId data now) = some db := by
  constructor
  -- what the canvas sends is within the length that `ZipRequest` admits
  · intro bytes hcap
    obtain ⟨hpos, hbound⟩ := dataUrl_bounded hcap
    exact ⟨hpos, hbound, dataUrl_carries bytes⟩
  -- two digits name up to 99 members
  · intro db carouselId data now hcount
    refine ⟨zipSlides_answered, fun db' members h => zipSlides_bundled hcount h, ?_⟩
    intro e h
    unfold carouselStep CarouselCall.run
    dsimp only
    rw [h]
    rfl

/-- Two slides of a deck, as the browser sends them. -/
def twoImages : ZipRequest defaultSettings where
  images := [dataUrl [255, 216, 255], dataUrl [255, 216]]
  images_valid := by
    intro image himage
    rcases List.mem_pair.mp himage with rfl | rfl
    · exact dataUrl_bounded (by decide)
    · exact dataUrl_bounded (by decide)
  images_ne := List.cons_ne_nil _ _
  images_le := by decide

/-- A gallery with one deck. -/
def sevenDeck : Db where
  carousels := [{ id := 7, cityId := 1, createdAt := seconds 1790000000
                  lastEditedAt := none, lastDownloadedAt := none }]

theorem zip_roundtrip_twoImages :
    ∃ db' members,
      zipSlides defaultSettings sevenDeck 7 twoImages (seconds 1790000060) = .ok (db', members)
        ∧ Bundled sevenDeck db' 7 twoImages.images (seconds 1790000060) members := by
  obtain ⟨hencoded, hrequests⟩ := zip_roundtrip feedless defaultSettings
  obtain ⟨hanswered, hbundled, -⟩ :=
    hrequests sevenDeck 7 twoImages (seconds 1790000060) (by decide)
  -- each of the two decodes, and both together stay within the total
  have hfit : ImagesFit defaultSettings twoImages.images := by
    refine ⟨[[255, 216, 255], [255, 216]], List.Forall₂.cons ?_ (List.Forall₂.cons ?_ .nil), ?_⟩
    · exact (hencoded _ (by decide)).2.2
    · exact (hencoded _ (by decide)).2.2
    · exact withinTotal_of_sum (by decide)
  obtain ⟨db', members, hok⟩ := hanswered.mpr ⟨hfit, _, rfl⟩
  exact ⟨db', members, hok, hbundled db' members hok⟩

end Feedcast
