/-
  Feedcast.Ingest.Identity — what the Article primary key identifies.

  `article_id_iff`: two entries get the same id exactly when their links have
  the same canonical parts and their titles the same normal form.  The forward
  direction is a chain of injective printers (`urlencode`, `urlunsplit`, the
  newline join, the hash); the backward one says that each normalisation step
  depends on nothing else.
-/
import Feedcast.Schemas.City
import Feedcast.Lib.Except
import Feedcast.Services.Ingest

namespace Feedcast

open Feedcast.Lib

/-! ## §1. The canonical parts. -/

theorem pairLe_antisymm {a b : Str × Str} (hab : pairLe a b) (hba : pairLe b a) : a = b :=
  toLex.injective (le_antisymm hab hba)

instance : Std.Total pairLe := ⟨fun a b => le_total (toLex a) (toLex b)⟩

instance : IsTrans (Str × Str) pairLe := ⟨fun _ _ _ hab hbc => le_trans hab hbc⟩

/-- Sorting forgets exactly the order of the pairs. -/
theorem insertionSort_eq_iff_perm (q q' : List (Str × Str)) :
    q.insertionSort pairLe = q'.insertionSort pairLe ↔ q.Perm q' := by
  constructor
  · intro h
    exact (List.perm_insertionSort pairLe q).symm.trans
      (h ▸ List.perm_insertionSort pairLe q')
  · -- two sorted lists of the same pairs are one list
    intro h
    refine List.Perm.eq_of_pairwise (fun a b _ _ => pairLe_antisymm)
      (List.pairwise_insertionSort pairLe q) (List.pairwise_insertionSort pairLe q') ?_
    exact ((List.perm_insertionSort pairLe q).trans h).trans
      (List.perm_insertionSort pairLe q').symm

theorem rstripSlash_ne_slash (path : Str) : rstripSlash path ≠ ['/'] := by
  intro h
  have hne : rstripSlash path ≠ [] := by rw [h]; simp
  -- a trimmed path does not end in a slash
  have hlast := List.rdropWhile_last_not (· == '/') path hne
  refine hlast ?_
  have hget : (rstripSlash path).getLast hne = '/' := by simp only [h, List.getLast_singleton]
  show ((rstripSlash path).getLast hne == '/') = true
  rw [hget]
  rfl

/-- The canonical path determines the path up to trailing slashes. -/
theorem canonicalPath_eq_iff (p q : Str) :
    (if rstripSlash p ≠ [] then rstripSlash p else ['/'])
        = (if rstripSlash q ≠ [] then rstripSlash q else ['/'])
      ↔ rstripSlash p = rstripSlash q := by
  constructor
  · intro h
    -- the slash that stands for an empty path is no trimmed path
    by_cases hp : rstripSlash p = [] <;> by_cases hq : rstripSlash q = [] <;>
      simp only [hp, hq, ne_eq, not_true_eq_false, not_false_eq_true, if_true, if_false] at h ⊢
    · exact absurd h.symm (rstripSlash_ne_slash q)
    · exact absurd h (rstripSlash_ne_slash p)
    · exact h
  · intro h
    rw [h]

theorem canonicalParts_path_ne (P : Platform) (u : SplitResult) :
    (canonicalParts P u).path ≠ [] := by
  show (if rstripSlash u.path ≠ [] then rstripSlash u.path else ['/']) ≠ []
  split
  · assumption
  · simp

/-- Canonicalising keeps the parts printable. -/
theorem canonicalParts_printable {P : Platform} {u : SplitResult} (hu : Printable u) :
    Printable (canonicalParts P u) := by
  have htrim : rstripSlash u.path <+: u.path := List.rdropWhile_prefix _ _
  have hmem : ∀ c ∈ (canonicalParts P u).path, c ∈ u.path ∨ c = '/' := by
    intro c hc
    change c ∈ (if rstripSlash u.path ≠ [] then rstripSlash u.path else ['/']) at hc
    split at hc
    · exact Or.inl (htrim.subset hc)
    · exact Or.inr (by simpa using hc)
  refine
    { scheme := hu.scheme, netloc_ne := hu.netloc_ne, netloc := hu.netloc
      rooted := ?_, path := ?_, no_newline := ⟨hu.no_newline.1, ?_⟩ }
  · intro c hc
    change c ∈ (if rstripSlash u.path ≠ [] then rstripSlash u.path else ['/']).head? at hc
    split at hc
    · next hne =>
        -- trimming at the end keeps the first character
        refine hu.rooted c ?_
        obtain ⟨t, ht⟩ := htrim
        rw [← ht, List.head?_append_of_ne_nil _ hne]
        exact hc
    · simpa using hc.symm
  · intro h
    rcases hmem _ h with hq | hq
    · exact hu.path hq
    · exact absurd hq (by decide)
  · intro h
    rcases hmem _ h with hn | hn
    · exact hu.no_newline.2 hn
    · exact absurd hn (by decide)

theorem canonicalize_no_newline {P : Platform} {u : SplitResult} (hu : Printable u) :
    '\n' ∉ urlunsplit (canonicalParts P u) :=
  urlunsplit_no_newline (canonicalParts_printable hu) (canonicalParts_path_ne P u) rfl
    (urlencode_no_newline _)

/-- **The canonical URL determines, and is determined by, the canonical parts.** -/
theorem canonicalize_eq_iff {P : Platform} {u v : SplitResult} (hu : Printable u)
    (hv : Printable v) :
    urlunsplit (canonicalParts P u) = urlunsplit (canonicalParts P v)
      ↔ u.scheme = v.scheme ∧ u.netloc = v.netloc
        ∧ rstripSlash u.path = rstripSlash v.path
        ∧ (keptPairs P u.query).Perm (keptPairs P v.query) := by
  constructor
  · intro h
    -- the text determines the parts, since neither path is empty
    have hparts := urlunsplit_injective (canonicalParts_printable hu)
      (canonicalParts_printable hv) (canonicalParts_path_ne P u) (canonicalParts_path_ne P v)
      rfl rfl h
    have hscheme : (canonicalParts P u).scheme = (canonicalParts P v).scheme := by rw [hparts]
    have hnetloc : (canonicalParts P u).netloc = (canonicalParts P v).netloc := by rw [hparts]
    have hpath : (canonicalParts P u).path = (canonicalParts P v).path := by rw [hparts]
    have hquery : (canonicalParts P u).query = (canonicalParts P v).query := by rw [hparts]
    exact ⟨hscheme, hnetloc, (canonicalPath_eq_iff _ _).mp hpath,
      (insertionSort_eq_iff_perm _ _).mp (urlencode_injective hquery)⟩
  · intro h
    obtain ⟨hs, hn, hp, hq⟩ := h
    unfold canonicalParts
    rw [hs, hn, hp, (insertionSort_eq_iff_perm _ _).mpr hq]

/-! ## §2. The key of an entry. -/

theorem canonicalizeUrl_ok {P : Platform} {link canonical : Str}
    (h : canonicalizeUrl P link = .ok canonical) :
    ∃ parts, urlsplit P link = .ok parts ∧ canonical = urlunsplit (canonicalParts P parts) := by
  unfold canonicalizeUrl at h
  obtain ⟨parts, hsplit, h⟩ := except_bind_ok.mp h
  exact ⟨parts, hsplit, (Except.ok.inj h).symm⟩

/-- Two entries tell the same story: one canonical link, and titles that unescape to
one normal title. -/
structure SameStory (P : Platform) (u v : SplitResult) (title title' : Str) : Prop where
  scheme : u.scheme = v.scheme
  netloc : u.netloc = v.netloc
  path : rstripSlash u.path = rstripSlash v.path
  query : (keptPairs P u.query).Perm (keptPairs P v.query)
  title : ∃ text text', P.htmlUnescape title = .ok text ∧ P.htmlUnescape title' = .ok text'
    ∧ P.casefold (strip (collapseSpace text)) = P.casefold (strip (collapseSpace text'))

/-- **THE ID IDENTIFIES THE STORY**: for any two entries whose links carry a
network location, whatever their sources, positions and city tables, the ids
agree iff the entries tell the same story. -/
theorem article_id_iff (P : Platform) (hsha : Function.Injective P.sha256hex)
    (source source' : Source) (entry entry' : Entry) (position position' : Nat)
    (cities cities' : Str → Option Nat) (link link' title title' : Str)
    (hlink : entry.link = some link) (hlink' : entry'.link = some link')
    (htitle : entry.title = some title) (htitle' : entry'.title = some title')
    (u v : SplitResult) (hu : urlsplit P link = .ok u) (hv : urlsplit P link' = .ok v)
    (hun : u.netloc ≠ []) (hvn : v.netloc ≠ []) (a a' : ArticleRow)
    (ha : normalizeEntry P source entry position cities = .ok (some a))
    (ha' : normalizeEntry P source' entry' position' cities' = .ok (some a')) :
    a.id = a'.id ↔ SameStory P u v title title' := by
  -- the id is a function of the parts of the link and of the title
  have key : ∀ {e : Entry} {l t : Str} {w : SplitResult} {src : Source} {pos : Nat}
      {cs : Str → Option Nat} {b : ArticleRow}, e.link = some l → e.title = some t →
      urlsplit P l = .ok w → normalizeEntry P src e pos cs = .ok (some b) →
      P.htmlUnescape t = .ok b.title
        ∧ b.id = articleKey P (urlunsplit (canonicalParts P w)) b.title := by
    intro e l t w src pos cs b hl ht hw hb
    obtain ⟨t', canonical, _, hl', ht', hc, hunescaped, -, hid, -, -⟩ := normalizeEntry_row hb
    obtain ⟨parts, hparts, rfl⟩ := canonicalizeUrl_ok hc
    have hll : b.url = l := Option.some.inj ((truthy_some hl').symm.trans hl)
    have htt : t' = t := Option.some.inj ((truthy_some ht').symm.trans ht)
    rw [hll, hw] at hparts
    injection hparts with hparts
    exact ⟨htt ▸ hunescaped, by rw [hid, hparts]⟩
  have hup := urlsplit_printable hu hun
  have hvp := urlsplit_printable hv hvn
  obtain ⟨htext, hid⟩ := key hlink htitle hu ha
  obtain ⟨htext', hid'⟩ := key hlink' htitle' hv ha'
  rw [hid, hid', articleKey_inj hsha (canonicalize_no_newline hup) (canonicalize_no_newline hvp),
      canonicalize_eq_iff hup hvp]
  constructor
  · intro h
    obtain ⟨⟨hs, hn, hp, hq⟩, ht⟩ := h
    exact ⟨hs, hn, hp, hq, a.title, a'.title, htext, htext', ht⟩
  · intro h
    obtain ⟨hs, hn, hp, hq, text, text', hread, hread', ht⟩ := h
    -- a text unescapes to one text only
    rw [htext] at hread
    rw [htext'] at hread'
    cases hread
    cases hread'
    exact ⟨⟨hs, hn, hp, hq⟩, ht⟩

/-- One page of the test suite, twice: once with a tracking parameter, a
trailing slash and a differently set title. -/
def trackedEntry : Entry where
  link := some "https://example.test/a/b/?utm_source=x&id=1".toList
  title := some "Fire  breaks out".toList

def plainEntry : Entry where
  link := some "https://example.test/a/b?id=1".toList
  title := some "FIRE breaks out ".toList

set_option maxRecDepth 100000 in
/-- The two settings of the page get ids, which agree as its parts say. -/
theorem article_id_iff_tracked :
    ∃ a a' u v,
      normalizeEntry feedless (testTimes.row 1 1) trackedEntry 1 (fun _ => none) = .ok (some a)
        ∧ normalizeEntry feedless (testTimes.row 1 1) plainEntry 2 (fun _ => none) = .ok (some a')
        ∧ (a.id = a'.id ↔ SameStory feedless u v "Fire  breaks out".toList
            "FIRE breaks out ".toList) :=
  ⟨_, _, _, _, rfl, rfl,
    article_id_iff feedless hexPrint_injective (testTimes.row 1 1) (testTimes.row 1 1)
      trackedEntry plainEntry 1 2 (fun _ => none) (fun _ => none) _ _ _ _ rfl rfl rfl rfl _ _
      rfl rfl (by decide) (by decide) _ _ rfl rfl⟩

end Feedcast
