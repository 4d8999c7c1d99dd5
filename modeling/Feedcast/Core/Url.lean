/-
  Feedcast.Core.Url — the part of `urllib.parse` that ingest relies on.

  `urlsplit`, `urlunsplit`, `parse_qsl` and `urlencode` as CPython 3.13 has
  them, on code points.  The printer half is shown to lose nothing:

    • `quotePlus_injective` / `urlencode_injective` — the re-encoded query
      determines its pairs,
    • `urlsplit_printable` — what a successful split guarantees of its parts,
    • `urlunsplit_injective` — with a network location, the printed URL
      determines scheme, netloc, path and query.
-/
import Feedcast.Lib.Codes
import Feedcast.Core.Platform
import Mathlib.Data.List.DropRight
import Mathlib.Data.List.GetD

namespace Feedcast

open Feedcast.Lib

/-! ## §1. Bytes and percent-encoding. -/

/-- `text.encode("utf-8")`. -/
def utf8 (text : Str) : List UInt8 := text.flatMap String.utf8EncodeChar

theorem utf8_injective : Function.Injective utf8 := by
  intro a b h
  -- a string is its bytes, and these are the bytes of its characters in turn
  have hbytes : (String.ofList a).toByteArray = (String.ofList b).toByteArray := by
    show a.utf8Encode = b.utf8Encode
    unfold List.utf8Encode
    exact congrArg List.toByteArray h
  have hstr : String.ofList a = String.ofList b := String.toByteArray_inj.mp hbytes
  simpa using congrArg String.toList hstr

/-- `_ALWAYS_SAFE_BYTES`: letters, digits and `_.-~`. -/
def alwaysSafe (b : UInt8) : Bool :=
  let n := b.toNat
  (0x41 ≤ n && n ≤ 0x5A) || (0x61 ≤ n && n ≤ 0x7A) || (0x30 ≤ n && n ≤ 0x39)
    || n == 0x5F || n == 0x2E || n == 0x2D || n == 0x7E

/-- One digit of `"%XX"`. -/
def hexDigit (n : Nat) : Char :=
  ['0', '1', '2', '3', '4', '5', '6', '7', '8', '9', 'A', 'B', 'C', 'D', 'E', 'F'].getD n '0'

/-- One byte as `quote_plus` prints it. -/
def quoteByte (b : UInt8) : Str :=
  if alwaysSafe b then [Char.ofNat b.toNat]
  else if b = 0x20 then ['+']
  else ['%', hexDigit (b.toNat / 16), hexDigit (b.toNat % 16)]

/-- `urllib.parse.quote_plus`. -/
def quotePlus (text : Str) : Str := (utf8 text).flatMap quoteByte

/-- `urllib.parse.urlencode` on a list of pairs. -/
def urlencode (query : List (Str × Str)) : Str :=
  List.intercalate ['&'] (query.map fun kv => quotePlus kv.1 ++ '=' :: quotePlus kv.2)

def hexValue (b : UInt8) : Option Nat :=
  let n := b.toNat
  if 0x30 ≤ n ∧ n ≤ 0x39 then some (n - 0x30)
  else if 0x41 ≤ n ∧ n ≤ 0x46 then some (n - 0x37)
  else if 0x61 ≤ n ∧ n ≤ 0x66 then some (n - 0x57)
  else none

/-- `unquote_to_bytes`: a `%` not followed by two hex digits stays. -/
def unquoteToBytes : List UInt8 → List UInt8
  | [] => []
  | c :: rest =>
      if c = 0x25 then
        match rest with
        | a :: b :: tail =>
            match hexValue a, hexValue b with
            | some hi, some lo => UInt8.ofNat (hi * 16 + lo) :: unquoteToBytes tail
            | _, _ => c :: unquoteToBytes (a :: b :: tail)
        | tail => c :: unquoteToBytes tail
      else c :: unquoteToBytes rest

/-- A multi-byte sequence under way: continuation bytes still needed, the
bounds of the next one, and the code point so far. -/
structure Utf8Pending where
  need : Nat
  lo : Nat
  hi : Nat
  acc : Nat

/-- U+FFFD, what `errors="replace"` prints. -/
def replacement : Char := Char.ofNat 0xFFFD

/-- The first byte of a sequence. -/
def utf8Start (b : UInt8) : Char ⊕ Utf8Pending :=
  let n := b.toNat
  if n < 0x80 then .inl (Char.ofNat n)
  else if 0xC2 ≤ n ∧ n ≤ 0xDF then .inr ⟨1, 0x80, 0xBF, n - 0xC0⟩
  else if n = 0xE0 then .inr ⟨2, 0xA0, 0xBF, 0⟩
  else if n = 0xED then .inr ⟨2, 0x80, 0x9F, 0xD⟩
  else if 0xE1 ≤ n ∧ n ≤ 0xEF then .inr ⟨2, 0x80, 0xBF, n - 0xE0⟩
  else if n = 0xF0 then .inr ⟨3, 0x90, 0xBF, 0⟩
  else if 0xF1 ≤ n ∧ n ≤ 0xF3 then .inr ⟨3, 0x80, 0xBF, n - 0xF0⟩
  else if n = 0xF4 then .inr ⟨3, 0x80, 0x8F, 4⟩
  else .inl replacement

/-- `bytes.decode("utf-8", "replace")`: an ill-formed sequence is replaced up
to the first byte that cannot continue it. -/
def utf8Decode : Option Utf8Pending → List UInt8 → Str
  | none, [] => []
  | some _, [] => [replacement]
  | none, b :: rest =>
      match utf8Start b with
      | .inl c => c :: utf8Decode none rest
      | .inr p => utf8Decode (some p) rest
  | some p, b :: rest =>
      if p.lo ≤ b.toNat ∧ b.toNat ≤ p.hi then
        let acc := p.acc * 64 + b.toNat % 64
        if p.need = 1 then Char.ofNat acc :: utf8Decode none rest
        else utf8Decode (some ⟨p.need - 1, 0x80, 0xBF, acc⟩) rest
      else
        replacement ::
          match utf8Start b with
          | .inl c => c :: utf8Decode none rest
          | .inr p' => utf8Decode (some p') rest

/-- `urllib.parse.unquote_plus`. -/
def unquotePlus (text : Str) : Str :=
  let spaced := text.map fun c => if c = '+' then ' ' else c
  if '%' ∈ spaced then utf8Decode none (unquoteToBytes (utf8 spaced)) else spaced

/-- `s.partition(c)`, without the separator itself. -/
def cut (c : Char) (s : Str) : Str × Str :=
  (s.takeWhile (· ≠ c), (s.dropWhile (· ≠ c)).tail)

/-- `urllib.parse.parse_qsl(qs, keep_blank_values=True)`. -/
def parseQsl (qs : Str) : List (Str × Str) :=
  if qs = [] then []
  else
    ((qs.splitOn '&').filter (· ≠ [])).map fun nameValue =>
      (unquotePlus (cut '=' nameValue).1, unquotePlus (cut '=' nameValue).2)

/-! ## §2. Splitting and printing a URL. -/

structure SplitResult where
  scheme : Str
  netloc : Str
  path : Str
  query : Str
  fragment : Str
  deriving Repr, DecidableEq

/-- `scheme_chars`. -/
def schemeChar (c : Char) : Bool := c.isAlphanum || c == '+' || c == '-' || c == '.'

/-- The scheme, lower-cased, and what follows its colon. -/
def splitScheme (url : Str) : Str × Str :=
  match url.dropWhile (· ≠ ':') with
  | [] => ([], url)
  | _ :: rest =>
      if (url.takeWhile (· ≠ ':')).head?.any Char.isAlpha
          && (url.takeWhile (· ≠ ':')).all schemeChar then
        ((url.takeWhile (· ≠ ':')).map Char.toLower, rest)
      else ([], url)

/-- `_splitnetloc`'s delimiters. -/
def netlocChar (c : Char) : Bool := c != '/' && c != '?' && c != '#'

def splitNetloc (url : Str) : Str × Str :=
  match url with
  | '/' :: '/' :: rest => (rest.takeWhile netlocChar, rest.dropWhile netlocChar)
  | _ => ([], url)

/-- The checks `urlsplit` makes of an authority. -/
def checkNetloc (P : Platform) (netloc : Str) : Raises Unit :=
  if decide ('[' ∈ netloc) != decide (']' ∈ netloc) then
    .error "Invalid IPv6 URL".toList
  else if netloc = [] then .ok ()
  else
    match P.netlocError netloc with
    | some e => .error e
    | none => .ok ()

/-- `url.lstrip(_WHATWG_C0_CONTROL_OR_SPACE)`, then the unsafe bytes removed. -/
def cleanUrl (url : Str) : Str :=
  (url.dropWhile fun c => c.toNat ≤ 0x20).filter fun c => c ∉ ['\t', '\r', '\n']

/-- `urllib.parse.urlsplit`. -/
def urlsplit (P : Platform) (url : Str) : Raises SplitResult := do
  let (scheme, afterScheme) := splitScheme (cleanUrl url)
  let (netloc, afterNetloc) := splitNetloc afterScheme
  checkNetloc P netloc
  let (beforeFragment, fragment) := cut '#' afterNetloc
  let (path, query) := cut '?' beforeFragment
  return { scheme, netloc, path, query, fragment }

/-- `uses_netloc`. -/
def usesNetloc : List Str :=
  ["".toList, "ftp".toList, "http".toList, "gopher".toList, "nntp".toList, "telnet".toList,
    "imap".toList, "wais".toList, "file".toList, "mms".toList, "https".toList, "shttp".toList,
    "snews".toList, "prospero".toList, "rtsp".toList, "rtsps".toList, "rtspu".toList,
    "rsync".toList, "svn".toList, "svn+ssh".toList, "sftp".toList, "nfs".toList, "git".toList,
    "git+ssh".toList, "ws".toList, "wss".toList]

/-- `urllib.parse.urlunsplit`. -/
def urlunsplit (parts : SplitResult) : Str :=
  let url := parts.path
  let url :=
    if parts.netloc ≠ [] then
      let url := if url ≠ [] ∧ url.head? ≠ some '/' then '/' :: url else url
      '/' :: '/' :: (parts.netloc ++ url)
    else if url.take 2 = ['/', '/'] then '/' :: '/' :: url
    else if parts.scheme ≠ [] ∧ parts.scheme ∈ usesNetloc
        ∧ (url = [] ∨ url.head? = some '/') then '/' :: '/' :: url
    else url
  let url := if parts.scheme ≠ [] then parts.scheme ++ ':' :: url else url
  let url := if parts.query ≠ [] then url ++ '?' :: parts.query else url
  if parts.fragment ≠ [] then url ++ '#' :: parts.fragment else url

/-! ## §3. The re-encoded query determines its pairs. -/

theorem hexDigit_inj {m n : Nat} (hm : m < 16) (hn : n < 16)
    (h : hexDigit m = hexDigit n) : m = n := by
  have table : ∀ i < 16, ∀ j < 16, hexDigit i = hexDigit j → i = j := by decide
  exact table m hm n hn h

theorem ofNat_byte_inj {a b : UInt8} (h : Char.ofNat a.toNat = Char.ofNat b.toNat) :
    a = b := by
  have valid : ∀ x : UInt8, (Char.ofNat x.toNat).toNat = x.toNat := by
    intro x
    -- a byte lies below the surrogates
    have hx : x.toNat < 256 := UInt8.toNat_lt x
    have hvalid : x.toNat.isValidChar := by left; omega
    rw [Char.ofNat, dif_pos hvalid]
    rfl
  have hnat : a.toNat = b.toNat := by rw [← valid a, ← valid b, h]
  exact UInt8.toNat_inj.mp hnat

/-- The three shapes `quoteByte` prints, told apart by their first symbol. -/
theorem quoteByte_cases (b : UInt8) :
    (alwaysSafe b = true ∧ quoteByte b = [Char.ofNat b.toNat]
        ∧ Char.ofNat b.toNat ≠ '+' ∧ Char.ofNat b.toNat ≠ '%'
        ∧ Char.ofNat b.toNat ≠ '&' ∧ Char.ofNat b.toNat ≠ '='
        ∧ Char.ofNat b.toNat ≠ '\n')
      ∨ (b = 0x20 ∧ quoteByte b = ['+'])
      ∨ (quoteByte b = ['%', hexDigit (b.toNat / 16), hexDigit (b.toNat % 16)]) := by
  unfold quoteByte
  by_cases hsafe : alwaysSafe b = true
  · left
    -- a safe byte is none of the five that are not safe
    have hne : ∀ c : UInt8, alwaysSafe c = false → Char.ofNat b.toNat ≠ Char.ofNat c.toNat := by
      intro c hc heq
      rw [ofNat_byte_inj heq, hc] at hsafe
      exact absurd hsafe (by decide)
    exact ⟨hsafe, by rw [if_pos hsafe], hne 0x2B (by decide), hne 0x25 (by decide),
      hne 0x26 (by decide), hne 0x3D (by decide), hne 0x0A (by decide)⟩
  · right
    by_cases hspace : b = 0x20
    · left
      exact ⟨hspace, by rw [if_neg hsafe, if_pos hspace]⟩
    · right
      rw [if_neg hsafe, if_neg hspace]

theorem quoteByte_prefixFree : PrefixFree quoteByte := by
  intro a b s t h
  rcases quoteByte_cases a with ⟨-, ha, hap, haq, -⟩ | ⟨ha0, ha⟩ | ha <;>
    rcases quoteByte_cases b with ⟨-, hb, hbp, hbq, -⟩ | ⟨hb0, hb⟩ | hb <;>
    simp only [ha, hb, List.cons_append, List.nil_append, List.cons.injEq] at h
  · -- two safe bytes
    exact ⟨ofNat_byte_inj h.1, h.2⟩
  -- a safe byte is neither a plus nor a percent sign
  · exact absurd h.1 hap
  · exact absurd h.1 haq
  · exact absurd h.1.symm hbp
  · exact ⟨ha0.trans hb0.symm, h.2⟩
  · exact absurd h.1 (by decide)
  · exact absurd h.1.symm hbq
  · exact absurd h.1 (by decide)
  · -- two escapes: the digits determine the byte
    obtain ⟨-, hhi, hlo, htail⟩ := h
    have ha' : a.toNat < 256 := UInt8.toNat_lt a
    have hb' : b.toNat < 256 := UInt8.toNat_lt b
    have hdiv := hexDigit_inj (by omega) (by omega) hhi
    have hmod := hexDigit_inj (by omega) (by omega) hlo
    exact ⟨UInt8.toNat_inj.mp (by omega), htail⟩

theorem quoteByte_ne_nil (b : UInt8) : quoteByte b ≠ [] := by
  rcases quoteByte_cases b with ⟨-, hb, -⟩ | ⟨-, hb⟩ | hb <;> rw [hb] <;> simp

theorem quotePlus_injective : Function.Injective quotePlus := by
  intro a b h
  exact utf8_injective (quoteByte_prefixFree.flatMap_injective quoteByte_ne_nil h)

/-- What holds of the sixteen digits holds of all that is printed. -/
theorem hexDigit_forall {p : Char → Prop} (table : ∀ i < 16, p (hexDigit i)) (n : Nat) :
    p (hexDigit n) := by
  by_cases hn : n < 16
  · exact table n hn
  · -- past the table the default is printed, the first digit
    have hzero : hexDigit n = hexDigit 0 := by
      unfold hexDigit
      rw [List.getD_eq_default]
      · rfl
      · simp only [List.length_cons, List.length_nil]
        omega
    rw [hzero]
    exact table 0 (by omega)

theorem hexDigit_plain (n : Nat) : hexDigit n ≠ '&' ∧ hexDigit n ≠ '=' ∧ hexDigit n ≠ '\n' := by
  have table : ∀ i < 16, hexDigit i ≠ '&' ∧ hexDigit i ≠ '=' ∧ hexDigit i ≠ '\n' := by decide
  exact hexDigit_forall (p := fun c => c ≠ '&' ∧ c ≠ '=' ∧ c ≠ '\n') table n

/-- Neither separator of the query survives unescaped in a component, and no
newline does. -/
theorem quotePlus_plain (text : Str) :
    ∀ c ∈ quotePlus text, c ≠ '&' ∧ c ≠ '=' ∧ c ≠ '\n' := by
  intro c hc
  obtain ⟨b, -, hb⟩ := List.mem_flatMap.mp hc
  rcases quoteByte_cases b with ⟨-, hq, -, -, hplain⟩ | ⟨-, hq⟩ | hq <;> rw [hq] at hb
  · rw [List.mem_singleton.mp hb]
    exact hplain
  · rw [List.mem_singleton.mp hb]
    decide
  -- an escape: the sign and two digits
  · simp only [List.mem_cons, List.not_mem_nil, or_false] at hb
    rcases hb with rfl | rfl | rfl
    · decide
    · exact hexDigit_plain _
    · exact hexDigit_plain _

theorem urlencode_no_newline (query : List (Str × Str)) : '\n' ∉ urlencode query := by
  intro h
  -- neither the quoted parts nor the sign between them is a newline
  have hblock : ∀ kv : Str × Str, '\n' ∉ quotePlus kv.1 ++ '=' :: quotePlus kv.2 := by
    intro kv hkv
    rcases List.mem_append.mp hkv with hk | hv
    · exact (quotePlus_plain _ _ hk).2.2 rfl
    · rcases List.mem_cons.mp hv with hsep | hv
      · exact absurd hsep (by decide)
      · exact (quotePlus_plain _ _ hv).2.2 rfl
  unfold urlencode at h
  cases hq : query.map (fun kv => quotePlus kv.1 ++ '=' :: quotePlus kv.2) with
  | nil =>
      rw [hq] at h
      simp [List.intercalate] at h
  | cons x xs =>
      have hmem : ∀ b ∈ x :: xs, '\n' ∉ b := by
        intro b hb
        rw [← hq] at hb
        obtain ⟨kv, -, rfl⟩ := List.mem_map.mp hb
        exact hblock kv
      rw [hq, intercalate_cons_tail] at h
      -- in the first pair, or in a later one or the sign before it
      rcases List.mem_append.mp h with h | h
      · exact hmem x List.mem_cons_self h
      · obtain ⟨b, hb, hc⟩ := List.mem_flatMap.mp h
        rcases List.mem_cons.mp hc with hsep | hc
        · exact absurd hsep (by decide)
        · exact hmem b (List.mem_cons_of_mem _ hb) hc

/-- **`urlencode` is injective**: no two lists of pairs print the same query. -/
theorem urlencode_injective : Function.Injective urlencode := by
  intro q q' h
  let pair : Str × Str → Str := fun kv => quotePlus kv.1 ++ '=' :: quotePlus kv.2
  -- the separators occur where they were printed, and nowhere else
  have hblock : ∀ (l : List (Str × Str)), ∀ x ∈ l.map pair, '&' ∉ x ∧ x ≠ [] := by
    intro l x hx
    obtain ⟨kv, -, rfl⟩ := List.mem_map.mp hx
    refine ⟨?_, by simp [pair]⟩
    intro hmem
    rcases List.mem_append.mp hmem with hk | hv
    · exact (quotePlus_plain kv.1 _ hk).1 rfl
    · rcases List.mem_cons.mp hv with hsep | hv
      · exact absurd hsep (by decide)
      · exact (quotePlus_plain kv.2 _ hv).1 rfl
  have hpair : Function.Injective pair := by
    intro kv kv' hkv
    obtain ⟨k, v⟩ := kv
    obtain ⟨k', v'⟩ := kv'
    obtain ⟨hk, hv⟩ := block_inj '=' (fun h => (quotePlus_plain k _ h).2.1 rfl)
      (fun h => (quotePlus_plain k' _ h).2.1 rfl)
      (by simp) (by simp) hkv
    have hv' : quotePlus v = quotePlus v' := by simpa using hv
    rw [quotePlus_injective hk, quotePlus_injective hv']
  exact List.map_injective_iff.mpr hpair
    (intercalate_injective '&' _ _ (hblock q) (hblock q') h)

/-! ## §4. What a successful split guarantees. -/

/-- Inversion of `urlsplit`: each part, as it was cut out of the cleaned URL. -/
theorem urlsplit_ok {P : Platform} {url : Str} {u : SplitResult}
    (h : urlsplit P url = .ok u) :
    u.scheme = (splitScheme (cleanUrl url)).1
      ∧ u.netloc = (splitNetloc (splitScheme (cleanUrl url)).2).1
      ∧ u.path = (cut '?' (cut '#' (splitNetloc (splitScheme (cleanUrl url)).2).2).1).1
      ∧ u.query = (cut '?' (cut '#' (splitNetloc (splitScheme (cleanUrl url)).2).2).1).2 := by
  unfold urlsplit at h
  simp only [bind, Except.bind] at h
  -- the first branch is the refusal of the authority
  split at h
  · exact absurd h (by simp)
  · simp only [pure, Except.pure, Except.ok.injEq] at h
    subst h
    exact ⟨rfl, rfl, rfl, rfl⟩

theorem cleanUrl_no_newline (url : Str) : '\n' ∉ cleanUrl url := by
  intro h
  have := (List.mem_filter.mp h).2
  simp at this

theorem mem_of_mem_cut_fst {c x : Char} {s : Str} (h : x ∈ (cut c s).1) : x ∈ s :=
  (List.takeWhile_sublist _).mem h

theorem splitNetloc_sublist (url : Str) :
    ((splitNetloc url).1).Sublist url ∧ ((splitNetloc url).2).Sublist url := by
  unfold splitNetloc
  split
  · exact ⟨((List.takeWhile_sublist _).trans (List.sublist_cons_self _ _)).trans
        (List.sublist_cons_self _ _),
      ((List.dropWhile_sublist _).trans (List.sublist_cons_self _ _)).trans
        (List.sublist_cons_self _ _)⟩
  · exact ⟨List.nil_sublist _, List.Sublist.refl _⟩

theorem splitScheme_snd_sublist (url : Str) : ((splitScheme url).2).Sublist url := by
  unfold splitScheme
  have hdrop := List.dropWhile_sublist (l := url) (fun c => decide (c ≠ ':'))
  split
  · exact List.Sublist.refl _
  · next c rest heq =>
      split
      · exact ((List.sublist_cons_self c rest).trans (heq ▸ hdrop))
      · exact List.Sublist.refl _

/-- A scheme is empty, or opens with a letter; none of its characters is a
newline, a colon or a slash. -/
theorem splitScheme_fst (url : Str) :
    (∀ c ∈ (splitScheme url).1, c ≠ ':' ∧ c ≠ '\n' ∧ c ≠ '/') := by
  unfold splitScheme
  have lowered : ∀ c, schemeChar c = true →
      c.toLower ≠ ':' ∧ c.toLower ≠ '\n' ∧ c.toLower ≠ '/' := by
    intro c hc
    -- a scheme character is ASCII, so that a table settles the rest
    have hlt : c.toNat < 128 := by
      delta schemeChar Char.isAlphanum Char.isAlpha Char.isUpper Char.isLower Char.isDigit at hc
      simp only [Bool.or_eq_true, Bool.and_eq_true, decide_eq_true_eq, beq_iff_eq] at hc
      simp only [UInt32.le_iff_toNat_le, ge_iff_le] at hc
      rcases hc with ((((⟨h1, h2⟩ | ⟨h1, h2⟩) | ⟨h1, h2⟩) | h) | h) | h
      · exact Nat.lt_of_le_of_lt h2 (by decide)
      · exact Nat.lt_of_le_of_lt h2 (by decide)
      · exact Nat.lt_of_le_of_lt h2 (by decide)
      · rw [h]; decide
      · rw [h]; decide
      · rw [h]; decide
    have table : ∀ n < 128, schemeChar (Char.ofNat n) = true →
        (Char.ofNat n).toLower ≠ ':' ∧ (Char.ofNat n).toLower ≠ '\n'
          ∧ (Char.ofNat n).toLower ≠ '/' := by decide
    have := table c.toNat hlt
    rw [Char.ofNat_toNat] at this
    exact this hc
  split
  · simp
  · next c rest heq =>
      split
      · next hpre =>
          intro x hx
          simp only [Bool.and_eq_true, List.all_eq_true] at hpre
          obtain ⟨y, hy, rfl⟩ := List.mem_map.mp hx
          exact lowered y (hpre.2 y hy)
      · simp

/-- The parts of a split that the printer can tell apart again. -/
structure Printable (u : SplitResult) : Prop where
  scheme : ∀ c ∈ u.scheme, c ≠ ':' ∧ c ≠ '\n' ∧ c ≠ '/'
  netloc_ne : u.netloc ≠ []
  netloc : ∀ c ∈ u.netloc, netlocChar c = true
  rooted : ∀ c ∈ u.path.head?, c = '/'
  path : '?' ∉ u.path
  no_newline : '\n' ∉ u.netloc ∧ '\n' ∉ u.path

/-- The text after an authority opens with a delimiter. -/
theorem dropWhile_netlocChar_head (rest : Str) :
    ∀ c ∈ (rest.dropWhile netlocChar).head?, c = '/' ∨ c = '?' ∨ c = '#' := by
  intro c hc
  -- what stops the walk is not a character of the authority
  have hfail : ¬ netlocChar c = true := by
    have := List.head?_dropWhile_not netlocChar rest
    rw [Option.mem_def.mp hc] at this
    simpa using this
  simp only [netlocChar, Bool.and_eq_true, bne_iff_ne, not_and, not_not] at hfail
  by_cases h1 : c = '/'
  · exact Or.inl h1
  · by_cases h2 : c = '?'
    · exact Or.inr (Or.inl h2)
    · exact Or.inr (Or.inr (by simpa using hfail ⟨h1, h2⟩))

/-- Where an authority was found, the rest of the URL opens with a delimiter. -/
theorem splitNetloc_rest {url : Str} (h : (splitNetloc url).1 ≠ []) :
    ∀ c ∈ (splitNetloc url).2.head?, c = '/' ∨ c = '?' ∨ c = '#' := by
  unfold splitNetloc at h ⊢
  split at h
  · exact dropWhile_netlocChar_head _
  · exact absurd rfl h

/-- Cutting at `?` or `#` keeps only a leading slash. -/
theorem cut_head (d : Char) (s : Str) :
    ∀ c ∈ (cut d s).1.head?, c ∈ s.head? ∧ c ≠ d := by
  intro c hc
  cases s with
  | nil => simp [cut] at hc
  | cons x s =>
      -- cut at its first character, a text leaves nothing
      by_cases hx : x = d
      · subst hx
        simp [cut] at hc
      · have hcut : (cut d (x :: s)).1 = x :: s.takeWhile (· ≠ d) := by
          simp [cut, hx]
        rw [hcut] at hc
        have hcx : x = c := by simpa using hc
        exact ⟨by simp [hcx], hcx ▸ hx⟩

theorem not_mem_cut_fst (d : Char) (s : Str) : d ∉ (cut d s).1 := by
  intro h
  have := List.mem_takeWhile_imp h
  simp at this

/-- **Every successful split with a network location is printable.** -/
theorem urlsplit_printable {P : Platform} {url : Str} {u : SplitResult}
    (h : urlsplit P url = .ok u) (hnet : u.netloc ≠ []) : Printable u := by
  obtain ⟨hs, hn, hp, -⟩ := urlsplit_ok h
  obtain ⟨hsubl, hsubr⟩ := splitNetloc_sublist (splitScheme (cleanUrl url)).2
  have hclean : ∀ c, c ∈ (splitScheme (cleanUrl url)).2 → c ≠ '\n' := by
    intro c hc hnl
    exact cleanUrl_no_newline url (hnl ▸ (splitScheme_snd_sublist _).mem hc)
  -- the path is a piece of what follows the authority
  have hpath : ∀ c ∈ u.path, c ∈ (splitNetloc (splitScheme (cleanUrl url)).2).2 := by
    intro c hc
    rw [hp] at hc
    exact mem_of_mem_cut_fst (mem_of_mem_cut_fst hc)
  refine
    { scheme := ?_, netloc_ne := hnet, netloc := ?_, rooted := ?_, path := ?_, no_newline := ?_ }
  · rw [hs]
    exact splitScheme_fst (cleanUrl url)
  · intro c hc
    rw [hn] at hc
    unfold splitNetloc at hc
    split at hc
    · exact List.mem_takeWhile_imp hc
    · simp at hc
  · intro c hc
    rw [hp] at hc
    obtain ⟨hc1, hq⟩ := cut_head '?' _ c hc
    obtain ⟨hc2, hf⟩ := cut_head '#' _ c hc1
    rcases splitNetloc_rest (hn ▸ hnet) c hc2 with h1 | h2 | h3
    · exact h1
    · exact absurd h2 hq
    · exact absurd h3 hf
  · rw [hp]
    exact not_mem_cut_fst '?' _
  · constructor
    · intro hmem
      rw [hn] at hmem
      exact hclean _ (hsubl.mem hmem) rfl
    · intro hmem
      exact hclean _ (hsubr.mem (hpath _ hmem)) rfl

/-! ## §5. The printed URL determines its parts. -/

/-- What `urlunsplit` prints when there is an authority and no fragment. -/
theorem urlunsplit_eq {u : SplitResult} (hu : Printable u) (hpath : u.path ≠ [])
    (hfrag : u.fragment = []) :
    urlunsplit u
      = (if u.scheme = [] then [] else u.scheme ++ [':'])
        ++ '/' :: '/' :: (u.netloc ++ (u.path
            ++ (if u.query = [] then [] else '?' :: u.query))) := by
  -- a path that is there starts with a slash
  have hroot : u.path.head? = some '/' := by
    cases hp : u.path with
    | nil => exact absurd hp hpath
    | cons c s => rw [List.head?_cons, hu.rooted c (by rw [hp]; rfl)]
  unfold urlunsplit
  simp only [hu.netloc_ne, hfrag, hroot, ne_eq, not_true_eq_false, and_false, if_false,
    not_false_eq_true, if_true]
  by_cases hs : u.scheme = [] <;> by_cases hq : u.query = [] <;>
    simp [hs, hq]

/-- **With a network location, a printed URL determines scheme, netloc, path
and query.** -/
theorem urlunsplit_injective {u v : SplitResult} (hu : Printable u) (hv : Printable v)
    (hup : u.path ≠ []) (hvp : v.path ≠ []) (huf : u.fragment = []) (hvf : v.fragment = [])
    (h : urlunsplit u = urlunsplit v) : u = v := by
  rw [urlunsplit_eq hu hup huf, urlunsplit_eq hv hvp hvf] at h
  -- the scheme, if any, runs up to the first colon; a rootless print has none
  have hscheme : u.scheme = v.scheme := by
    have hcolon : ∀ {w : SplitResult}, Printable w →
        ∀ c ∈ w.scheme, decide (c ≠ ':') = true :=
      fun hw c hc => by simp [(hw.scheme c hc).1]
    by_cases hus : u.scheme = [] <;> by_cases hvs : v.scheme = []
    · rw [hus, hvs]
    · obtain ⟨c, rest, hc⟩ := List.exists_cons_of_ne_nil hvs
      rw [if_pos hus, if_neg hvs, hc] at h
      have hslash : '/' = c := by simpa using congrArg List.head? h
      exact absurd hslash.symm (hv.scheme c (by rw [hc]; exact List.mem_cons_self)).2.2
    · obtain ⟨c, rest, hc⟩ := List.exists_cons_of_ne_nil hus
      rw [if_neg hus, if_pos hvs, hc] at h
      have hslash : c = '/' := by simpa using congrArg List.head? h
      exact absurd hslash (hu.scheme c (by rw [hc]; exact List.mem_cons_self)).2.2
    · rw [if_neg hus, if_neg hvs, List.append_assoc, List.append_assoc] at h
      exact (append_inj_of_stop (hcolon hu) (hcolon hv) (by simp) (by simp) h).1
  rw [hscheme] at h
  have hafter := List.append_cancel_left h
  simp only [List.cons.injEq, true_and] at hafter
  -- the authority runs up to the slash of the path, the path up to the `?` of the query
  have hstop : ∀ {w : SplitResult}, Printable w → w.path ≠ [] → ∀ t : Str,
      Stops netlocChar (w.path ++ t) := by
    intro w hw hwp t c hc
    obtain ⟨d, s, hd⟩ := List.exists_cons_of_ne_nil hwp
    have hdc : d = c := by simpa [hd] using hc
    rw [← hdc, hw.rooted d (by rw [hd]; rfl)]
    decide
  obtain ⟨hnet, hrest⟩ := append_inj_of_stop hu.netloc hv.netloc
    (hstop hu hup _) (hstop hv hvp _) hafter
  have hquery : ∀ q : Str, ∀ c ∈ (if q = [] then [] else '?' :: q).head?, c = '?' := by
    intro q c hc
    by_cases hq : q = []
    · simp [hq] at hc
    · simpa [hq] using hc.symm
  obtain ⟨hpath, htail⟩ := block_inj '?' hu.path hv.path (hquery u.query) (hquery v.query) hrest
  have hq : u.query = v.query := by
    by_cases huq : u.query = [] <;> by_cases hvq : v.query = [] <;>
      simp [huq, hvq] at htail ⊢
    exact htail
  cases u
  cases v
  simp_all

theorem urlunsplit_no_newline {u : SplitResult} (hu : Printable u) (hpath : u.path ≠ [])
    (hfrag : u.fragment = []) (hq : '\n' ∉ u.query) : '\n' ∉ urlunsplit u := by
  rw [urlunsplit_eq hu hpath hfrag]
  have hs : '\n' ∉ u.scheme := fun h => (hu.scheme _ h).2.1 rfl
  obtain ⟨hn, hp⟩ := hu.no_newline
  by_cases h1 : u.scheme = [] <;> by_cases h2 : u.query = [] <;>
    simp [h1, h2, hs, hn, hp, hq]

end Feedcast
