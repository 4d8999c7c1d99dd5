/-
  Feedcast.Discover.Overlap — renders of Discover that overlap.

  Every call of `renderFeed` has its own grid, and all of them move one offset.
  A page that comes back to a superseded render moves it under the latest one,
  whose next page then starts further down the list.

    • `InOrder` — the property, at any time; `Discover.Settled` once its requests
      have answered,
    • `discoverStep_iff` — a step keeps it exactly if it does not bring the
      latest render a page that was asked for from a moved offset,
    • `discover_in_order_iff` — hence so does a run,
    • `storiesServer_answers` — the server's answers are those of `GET /stories`,
    • `lateAnswer_skips` — a filter changed before the first page has come.
-/
import Feedcast.Discover.Paging
import Feedcast.Static.Feed

namespace Feedcast

open Feedcast.Lib

/-! ## §1. The property. -/

/-- **The cards of the latest render are the first stories of the server's
list** for the current filters, in order. -/
def InOrder (server : StoriesServer) (view : Discover) : Prop :=
  view.latest.grid <+: server.answer view.filters

instance (server : StoriesServer) (view : Discover) : Decidable (InOrder server view) := by
  unfold InOrder
  infer_instance

/-- The same, once its requests have answered. -/
def Discover.Settled (server : StoriesServer) (view : Discover) : Prop :=
  view.latest.request = none → InOrder server view

instance (server : StoriesServer) (view : Discover) : Decidable (view.Settled server) := by
  unfold Discover.Settled
  infer_instance

/-- The events that leave the grid in order: a page with stories in it comes to
the latest render only if no story had come to a superseded one between its
start and the sending of the request. -/
def NothingStray (server : StoriesServer) (view : Discover) : FeedEvent → Prop
  | .answered .latest true => ∀ request ∈ view.latest.request,
      request.stray = 0 ∨ (server.answer request.filters).length ≤ request.offset
  | _ => True

/-- What the offset is, at any time. -/
structure Discover.Inv (view : Discover) : Prop where
  offset : view.offset = view.latest.grid.length + view.stray
  /-- What is on its way was asked for under the current filters. -/
  request : ∀ request ∈ view.latest.request, request.filters = view.filters
    ∧ request.offset = view.latest.grid.length + request.stray
  /-- A render that has not asked for a page has none. -/
  unasked : view.latest.phase ≠ .listing →
    view.latest.grid = [] ∧ view.latest.request = none ∧ view.latest.more = false

/-! ## §2. One step. -/

section Step

variable {server : StoriesServer} {view t : Discover}

theorem StoriesServer.distinct_stories (server : StoriesServer) (filters : FeedFilters) :
    (server.answer filters).Nodup :=
  List.Nodup.of_map _ (server.distinct filters)

/-- What an answer does, whoever it is for. -/
theorem answered_cases {who : Whose} {ok : Bool}
    (h : discoverStep server view (.answered who ok) = some t) :
    ∃ render request, view.renderOf who = some render ∧ render.request = some request ∧
      t = if ok then view.arrived who render
            (page pageSize request.offset (server.answer request.filters))
          else view.putRender who { render with request := none, more := false } := by
  simp only [discoverStep, Option.bind_eq_bind, Option.bind_eq_some_iff] at h
  obtain ⟨render, hrender, request, hrequest, h⟩ := h
  refine ⟨render, request, hrender, hrequest, ?_⟩
  cases ok with
  | true => simpa using h.symm
  | false => simpa using h.symm

theorem cityLoaded_cases {who : Whose} {goesOn : Bool}
    (h : discoverStep server view (.cityLoaded who goesOn) = some t) :
    ∃ render, view.renderOf who = some render ∧ render.phase = .city ∧
      t = view.putRender who { render with phase := if goesOn then .sources else .stopped } := by
  simp only [discoverStep, Option.bind_eq_bind, Option.bind_eq_some_iff] at h
  obtain ⟨render, hrender, h⟩ := h
  obtain ⟨hphase, h⟩ := Option.ite_none_right_eq_some.mp h
  exact ⟨render, hrender, hphase, (Option.some.inj h).symm⟩

theorem sourcesLoaded_cases {who : Whose}
    (h : discoverStep server view (.sourcesLoaded who) = some t) :
    ∃ render, view.renderOf who = some render ∧ render.phase = .sources ∧
      t = view.putRender who (view.sendPage render) := by
  simp only [discoverStep, Option.bind_eq_bind, Option.bind_eq_some_iff] at h
  obtain ⟨render, hrender, h⟩ := h
  obtain ⟨hphase, h⟩ := Option.ite_none_right_eq_some.mp h
  exact ⟨render, hrender, hphase, (Option.some.inj h).symm⟩

theorem loadMore_cases (h : discoverStep server view .loadMore = some t) :
    t = { view with latest := view.sendPage view.latest } := by
  obtain ⟨-, h⟩ := Option.ite_none_right_eq_some.mp h
  exact (Option.some.inj h).symm

theorem settleCity_cases {cityId : Nat}
    (h : discoverStep server view (.settleCity cityId) = some t) :
    view.latest.phase = .city ∧
      t = { view with filters := { view.filters with cityId := cityId } } := by
  obtain ⟨hphase, h⟩ := Option.ite_none_right_eq_some.mp h
  exact ⟨hphase, (Option.some.inj h).symm⟩

theorem nothingStray_answered {request : PageRequest} (h : view.latest.request = some request) :
    NothingStray server view (.answered .latest true) ↔
      request.stray = 0 ∨ (server.answer request.filters).length ≤ request.offset := by
  simp only [NothingStray, h, Option.mem_some_iff, forall_eq']

/-- A render that has just begun. -/
theorem Discover.inv_begun (filters : FeedFilters) (superseded : List FeedRender) :
    ({ filters := filters, offset := 0, latest := {}, superseded := superseded, stray := 0 } :
      Discover).Inv where
  offset := rfl
  request := by
    intro request h
    cases h
  unasked _ := ⟨rfl, rfl, rfl⟩

/-- A page is asked for where the offset is. -/
theorem Discover.Inv.sendPage (hinv : view.Inv) :
    ({ view with latest := view.sendPage view.latest } : Discover).Inv where
  offset := hinv.offset
  request := by
    intro request h
    cases h
    exact ⟨rfl, hinv.offset⟩
  unasked h := absurd rfl h

/-- What a superseded render comes to is none of the latest one's. -/
theorem Discover.Inv.putSuperseded (hinv : view.Inv) (i : Nat) (render : FeedRender) :
    (view.putRender (.superseded i) render).Inv where
  offset := hinv.offset
  request := hinv.request
  unasked := hinv.unasked

/-- While a request is on its way the render has asked for a page. -/
theorem Discover.Inv.listing (hinv : view.Inv) {request : PageRequest}
    (h : view.latest.request = some request) : view.latest.phase = .listing := by
  by_contra hphase
  have hnone := (hinv.unasked hphase).2.1
  rw [h] at hnone
  cases hnone

theorem Discover.Inv.answered (hinv : view.Inv) {who : Whose} {ok : Bool}
    (h : discoverStep server view (.answered who ok) = some t) : t.Inv := by
  obtain ⟨render, request, hrender, hrequest, rfl⟩ := answered_cases h
  cases who with
  | latest =>
      cases Option.some.inj hrender
      have hlisting := hinv.listing hrequest
      cases ok with
      | true =>
          refine ⟨?_, ?_, ?_⟩
          · have hoffset := hinv.offset
            simp only [Discover.arrived, Discover.putRender, FeedRender.append, if_true,
              List.length_append]
            omega
          · intro request h
            cases h
          · intro hphase
            exact absurd hlisting hphase
      | false =>
          refine ⟨hinv.offset, ?_, ?_⟩
          · intro request h
            cases h
          · intro hphase
            exact absurd hlisting hphase
  | superseded i =>
      cases ok with
      | true =>
          refine ⟨?_, hinv.request, hinv.unasked⟩
          -- the offset moves on, and the grid of the latest render does not
          have hoffset := hinv.offset
          simp only [Discover.arrived, Discover.putRender, if_true]
          omega
      | false => exact hinv.putSuperseded i _

/-- **The offset is the length of the grid and what went astray.** -/
theorem discoverStep_inv (server : StoriesServer) (view : Discover) (e : FeedEvent) (t : Discover)
    (hinv : view.Inv) (h : discoverStep server view e = some t) : t.Inv := by
  cases e with
  | render filters =>
      cases h
      exact Discover.inv_begun filters _
  | settleCity cityId =>
      -- the filters change, and there are no cards yet
      obtain ⟨hphase, rfl⟩ := settleCity_cases h
      obtain ⟨hgrid, hrequest, hmore⟩ := hinv.unasked (by rw [hphase]; decide)
      refine ⟨hinv.offset, ?_, hinv.unasked⟩
      intro request h
      rw [hrequest] at h
      cases h
  | cityLoaded who goesOn =>
      obtain ⟨render, hrender, hphase, rfl⟩ := cityLoaded_cases h
      cases who with
      | latest =>
          cases Option.some.inj hrender
          refine ⟨hinv.offset, hinv.request, ?_⟩
          intro _
          exact hinv.unasked (by rw [hphase]; decide)
      | superseded i => exact hinv.putSuperseded i _
  | sourcesLoaded who =>
      obtain ⟨render, hrender, hphase, rfl⟩ := sourcesLoaded_cases h
      cases who with
      | latest =>
          cases Option.some.inj hrender
          exact hinv.sendPage
      | superseded i => exact hinv.putSuperseded i _
  | answered who ok => exact hinv.answered h
  | loadMore =>
      cases loadMore_cases h
      exact hinv.sendPage

/-- A step that leaves the grids as they are. -/
theorem inOrder_putRender {who : Whose} {render render' : FeedRender}
    (hrender : view.renderOf who = some render) (hgrid : render'.grid = render.grid)
    (horder : InOrder server view) : InOrder server (view.putRender who render') := by
  cases who with
  | latest =>
      cases Option.some.inj hrender
      show render'.grid <+: server.answer view.filters
      rw [hgrid]
      exact horder
  | superseded i => exact horder

/-- **A step keeps the grid in order exactly if it does not bring the latest
render a page that was asked for from a moved offset.** -/
theorem discoverStep_iff (server : StoriesServer) (view : Discover) (e : FeedEvent) (t : Discover)
    (hinv : view.Inv) (horder : InOrder server view) (h : discoverStep server view e = some t) :
    InOrder server t ↔ NothingStray server view e := by
  cases e with
  | render filters =>
      cases h
      exact iff_of_true List.nil_prefix trivial
  | settleCity cityId =>
      obtain ⟨hphase, rfl⟩ := settleCity_cases h
      obtain ⟨hgrid, -, -⟩ := hinv.unasked (by rw [hphase]; decide)
      refine iff_of_true ?_ trivial
      unfold InOrder
      rw [hgrid]
      exact List.nil_prefix
  | cityLoaded who goesOn =>
      obtain ⟨render, hrender, hphase, rfl⟩ := cityLoaded_cases h
      exact iff_of_true (inOrder_putRender hrender rfl horder) trivial
  | sourcesLoaded who =>
      obtain ⟨render, hrender, hphase, rfl⟩ := sourcesLoaded_cases h
      exact iff_of_true (inOrder_putRender hrender rfl horder) trivial
  | answered who ok =>
      obtain ⟨render, request, hrender, hrequest, rfl⟩ := answered_cases h
      cases who with
      | latest =>
          cases Option.some.inj hrender
          cases ok with
          | true =>
              -- a page is appended: the next of the answer unless its offset strays
              obtain ⟨hfilters, hoffset⟩ := hinv.request request hrequest
              have hpage := prefix_append_page (server.distinct_stories view.filters) horder
                pageSize request.stray (by decide)
              show view.latest.grid ++ page pageSize request.offset
                (server.answer request.filters) <+: server.answer view.filters ↔ _
              rw [nothingStray_answered hrequest, hfilters, hoffset, hpage]
          | false => exact iff_of_true horder trivial
      | superseded i =>
          -- its answer is dropped
          refine iff_of_true ?_ trivial
          cases ok with
          | true => exact horder
          | false => exact horder
  | loadMore =>
      cases loadMore_cases h
      exact iff_of_true horder trivial

/-- A page that is not there to come back meets the condition for nothing. -/
theorem nothingStray_of_stuck (server : StoriesServer) (view : Discover) (e : FeedEvent)
    (h : discoverStep server view e = none) : NothingStray server view e := by
  cases e with
  | answered who ok =>
      cases who with
      | latest =>
          cases ok with
          | true =>
              intro request hrequest
              rw [Option.mem_def] at hrequest
              simp [discoverStep, Discover.renderOf, hrequest] at h
          | false => trivial
      | superseded i => trivial
  | _ => trivial

/-- While a request is on its way, nothing has come to the latest render. -/
theorem inOrder_of_settled (server : StoriesServer) (view : Discover) (e : FeedEvent)
    (t : Discover) (hinv : view.Inv) (horder : InOrder server view) (hsettled : t.Settled server)
    (h : discoverStep server view e = some t) : InOrder server t := by
  by_cases hrequest : t.latest.request = none
  · exact hsettled hrequest
  · refine (discoverStep_iff server view e t hinv horder h).mpr ?_
    cases e with
    | answered who ok =>
        cases who with
        | latest =>
            -- an answer leaves no request
            obtain ⟨render, request, hrender, -, rfl⟩ := answered_cases h
            cases ok with
            | true => exact absurd rfl hrequest
            | false => exact absurd rfl hrequest
        | superseded i => trivial
    | _ => trivial

end Step

/-! ## §3. Runs. -/

/-- **DISCOVER IN ORDER.**  Over every interleaving of renders, answers and
clicks on "Load more", the cards of the latest render are the first stories of
the list whenever its requests have answered exactly if no page it asked for
from a moved offset brought it stories. -/
theorem discover_in_order_iff (server : StoriesServer) (filters : FeedFilters)
    (events : List FeedEvent) :
    Throughout (discoverStep server) (Discover.Settled server) (Discover.opened filters) events
      ↔ Along (discoverStep server) (NothingStray server) (Discover.opened filters) events := by
  have hinv : (Discover.opened filters).Inv := Discover.inv_begun filters []
  have horder : InOrder server (Discover.opened filters) := List.nil_prefix
  -- at every event the grid stays in order just when nothing stray lands
  have hevery : Throughout (discoverStep server) (InOrder server) (Discover.opened filters) events
      ↔ Along (discoverStep server) (NothingStray server) (Discover.opened filters) events :=
    throughout_iff_along (discoverStep_inv server) (discoverStep_iff server)
      (nothingStray_of_stuck server) hinv horder
  rw [← hevery]
  constructor
  · intro h
    -- a page that is settled whenever it rests was in order all along
    exact throughout_strengthen (discoverStep_inv server) (inOrder_of_settled server) hinv horder h
  · intro h pre hpre t ht _
    exact h pre hpre t ht

/-! ## §4. The server. -/

/-- The query `fetchStories` sends for a page. -/
def FeedFilters.query (filters : FeedFilters) (offset : Nat) : StoriesQuery where
  category := if filters.categories = [] then none else some filters.categories
  cityId := some filters.cityId
  sort := filters.sort
  limit := some pageSize
  offset := offset

/-- `GET /stories` over one database at one time. -/
def storiesServer (P : Platform) (settings : Settings) (db : Db) (now : Time)
    (hids : (db.articles.map (·.id)).Nodup) : StoriesServer where
  answer filters :=
    (inOrder settings filters.sort (shownRows settings db (filters.query 0) now)).map
      (storyCard P settings db)
  distinct filters := by
    rw [List.map_map]
    exact (((inOrder_perm settings filters.sort _).map _).nodup_iff).mpr (shownRows_ids hids)

/-- **The handler answers a page as the server of Discover does.** -/
theorem storiesServer_answers (P : Platform) (settings : Settings) (db : Db) (now : Time)
    (hids : (db.articles.map (·.id)).Nodup) (hmax : (pageSize : Int) ≤ settings.storyMaxLimit)
    (filters : FeedFilters) (offset : Nat) {rows : List StoryRow}
    (hrows : rows.Perm (windowRows settings db (filters.query 0) now)) :
    listStories P settings db (filters.query offset) rows
      = page pageSize offset ((storiesServer P settings db now hids).answer filters) := by
  have hlimit : (filters.query offset).effectiveLimit settings = pageSize := min_eq_left hmax
  have hpage := @listStories_page P settings db (filters.query offset) now hids
    (by rw [hlimit]; decide) rows hrows
  rw [hlimit] at hpage
  exact hpage

/-! ## §5. A late answer. -/

/-- The `n`th story of the list. -/
def nthStory (n : Nat) : StoryRead where
  id := List.replicate n 'x'
  title := "Drain cleared".toList
  summary := none
  url := "https://a.com/drain".toList
  publishedAt := seconds 1790000000 - n
  sourceName := "Citizen Matters".toList
  publisherGroup := "Citizen Matters".toList
  city := none
  cityId := some 1
  category := none
  score := 1
  engagement := none
  feedPosition := none
  images := []
  sensitivityFlags := []

/-- Thirty stories, whatever the filters. -/
def thirtyStories : StoriesServer where
  answer _ := (List.range 30).map nthStory
  distinct _ := by decide +kernel

/-- A filter is changed before the first page has come, and that page comes
before the new render has asked for its own. -/
def lateAnswer (filters : FeedFilters) : List FeedEvent :=
  [.cityLoaded .latest true, .sourcesLoaded .latest, .render filters,
    .answered (.superseded 0) true, .cityLoaded .latest true, .sourcesLoaded .latest,
    .answered .latest true]

/-- **A late answer skips a page**: the grid begins with the twenty-fifth story. -/
theorem lateAnswer_skips :
    ¬ Throughout (discoverStep thirtyStories) (Discover.Settled thirtyStories)
        (Discover.opened { categories := [], sort := .recent, cityId := 1 })
        (lateAnswer { categories := [.civic], sort := .recent, cityId := 1 })
      ∧ ∃ view ∈ exec (discoverStep thirtyStories)
          (Discover.opened { categories := [], sort := .recent, cityId := 1 })
          (lateAnswer { categories := [.civic], sort := .recent, cityId := 1 }),
        view.latest.request = none ∧ view.latest.grid = (List.range' 24 6).map nthStory := by
  -- the run is evaluated once: page two alone is on the grid
  have hrun : ∃ view ∈ exec (discoverStep thirtyStories)
      (Discover.opened { categories := [], sort := .recent, cityId := 1 })
      (lateAnswer { categories := [.civic], sort := .recent, cityId := 1 }),
      (view.latest.request = none ∧ view.latest.grid = (List.range' 24 6).map nthStory)
        ∧ ¬ view.Settled thirtyStories := by decide +kernel
  obtain ⟨view, hview, hgrid, hskipped⟩ := hrun
  refine ⟨?_, view, hview, hgrid⟩
  intro h
  exact hskipped (h _ List.prefix_rfl view (run_iff_exec.mpr hview))

end Feedcast
