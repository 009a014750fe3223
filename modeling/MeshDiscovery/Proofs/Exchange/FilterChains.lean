import MeshDiscovery.Proofs.Exchange.Cascade
import MeshDiscovery.Proofs.Result

namespace MeshDiscovery

namespace Schema

/-- A connection manager is packed that discovers its routes under the name. -/
def Any.Discovers (config : Any) (route : String) : Prop :=
  route ≠ "" ∧ config.typeUrl = HttpConnectionManager.url ∧
    ∃ manager : HttpConnectionManager, Wire.Message.decode config.value = some manager ∧
      manager.routes = some (.rds ⟨route⟩)

/-- A filter of the chain, whichever it is, has a connection manager that discovers its routes under
the name. -/
def FilterChain.Mentions (chain : FilterChain) (route : String) : Prop :=
  ∃ filter ∈ chain.filters, ∃ config, filter.config = some (.typed config) ∧ config.Discovers route

namespace Listener

/-- One of the listed filter chains or the API listener mentions a route configuration. -/
def MentionsListed (listener : Listener) (route : String) : Prop :=
  (∃ chain ∈ listener.filterChains, chain.Mentions route) ∨
    ∃ config, listener.apiListener = some ⟨some config⟩ ∧ config.Discovers route

/-- The default filter chain mentions a route configuration. -/
def MentionsByDefault (listener : Listener) (route : String) : Prop :=
  ∃ chain, listener.defaultFilterChain = some chain ∧ chain.Mentions route

/-- A route configuration is mentioned at one of the places that can hold a connection manager. -/
inductive Mentions (listener : Listener) (route : String) : Prop where
  | chain {chain : FilterChain} (listed : chain ∈ listener.filterChains)
      (mentions : chain.Mentions route)
  | api {config : Any} (present : listener.apiListener = some ⟨some config⟩)
      (discovers : config.Discovers route)
  | defaultChain {chain : FilterChain} (present : listener.defaultFilterChain = some chain)
      (mentions : chain.Mentions route)

variable {listener : Listener} {route : String}

theorem mentions_iff : listener.Mentions route ↔
    listener.MentionsListed route ∨ listener.MentionsByDefault route := by
  constructor
  · intro mentions
    cases mentions with
    | chain listed mentions => exact .inl (.inl ⟨_, listed, mentions⟩)
    | api present discovers => exact .inl (.inr ⟨_, present, discovers⟩)
    | defaultChain present mentions => exact .inr ⟨_, present, mentions⟩
  · rintro ((⟨_, listed, mentions⟩ | ⟨_, present, discovers⟩) | ⟨_, present, mentions⟩)
    · exact .chain listed mentions
    · exact .api present discovers
    · exact .defaultChain present mentions

/-- A listener refers to what is mentioned in its listed chains, at any place among their filters,
or in its API listener. -/
theorem refersTo_iff_mentionsListed : listener.RefersTo route ↔ listener.MentionsListed route := by
  constructor
  · rintro ⟨named, config, manager, packs, typed, decoded, discovered⟩
    have discovers : config.Discovers route := ⟨named, typed, manager, decoded, discovered⟩
    rcases packs with ⟨chain, listed, filter, inside, packed⟩ | present
    · exact .inl ⟨chain, listed, filter, inside, config, packed, discovers⟩
    · exact .inr ⟨config, present, discovers⟩
  · rintro (⟨chain, listed, filter, inside, config, packed, discovers⟩ |
      ⟨config, present, discovers⟩)
    · obtain ⟨named, typed, manager, decoded, discovered⟩ := discovers
      exact ⟨named, config, manager, .inl ⟨chain, listed, filter, inside, packed⟩, typed, decoded,
        discovered⟩
    · obtain ⟨named, typed, manager, decoded, discovered⟩ := discovers
      exact ⟨named, config, manager, .inr present, typed, decoded, discovered⟩

theorem all_mentions_iff {Has : String → Prop}
    (listed : ∀ route, listener.MentionsListed route → Has route) :
    (∀ route, listener.Mentions route → Has route) ↔
      ∀ route, listener.MentionsByDefault route → Has route := by
  constructor
  · intro all route byDefault
    exact all route (mentions_iff.mpr (.inr byDefault))
  · intro covered route mentions
    exact (mentions_iff.mp mentions).elim (listed route) (covered route)

end Listener

end Schema

theorem Resource.Listener.mem_routeNames_iff_mentionsListed {message : Schema.Listener}
    {route : String} : route ∈ (ofMessage message).routeNames ↔ message.MentionsListed route :=
  mem_routeNames.trans Schema.Listener.refersTo_iff_mentionsListed

/-- A response refers to the routes that its listeners mention. -/
theorem Response.refersTo_routes_iff {response : Response} {route : String} :
    response.RefersTo .routeConfiguration route ↔
      ∃ message, response.Holds .listener message ∧ message.MentionsListed route := by
  constructor
  · intro refers
    cases refers with
    | routes holds refers =>
      exact ⟨_, holds, Schema.Listener.refersTo_iff_mentionsListed.mp refers⟩
  · rintro ⟨_, holds, mentions⟩
    exact .routes holds (Schema.Listener.refersTo_iff_mentionsListed.mpr mentions)

namespace Exchange

open Deployment
open Session.Agrees (requestFor)

/-- The routes found in a listener are those that its listed filter chains and its API listener
mention, and an exchange subscribes to them, with one request for the whole subscription, when the
listener is handed over. That is all that the listener mentions exactly if its default filter chain
mentions nothing that is not also mentioned there or, for the subscription, in another listener. -/
theorem routes_of_listed_chains_are_subscribed (config : ClientConfig) (steps : List Move)
    (external : ∀ step ∈ steps, step.External) :
    (∀ message : Schema.Listener,
      let found := (Resource.Listener.ofMessage message).routeNames
      (∀ route, route ∈ found ↔ message.MentionsListed route) ∧
        ((∀ route, message.Mentions route → route ∈ found) ↔
          ∀ route, message.MentionsByDefault route → message.MentionsListed route)) ∧
      ∃ started, start true config = .ok started ∧
        let exchange := started.moves steps
        (∀ response ∈ started.handed steps, ∀ message, response.Holds .listener message →
          (∀ route, message.MentionsListed route →
            route ∈ exchange.wanted .routeConfiguration) ∧
          ((∀ route, message.Mentions route → route ∈ exchange.wanted .routeConfiguration) ↔
            ∀ route, message.MentionsByDefault route → ∃ other ∈ started.handed steps,
              ∃ listener, other.Holds .listener listener ∧ listener.MentionsListed route)) ∧
        ∀ step : Move, step.External → ∀ response message route,
          exchange.handed? step = some response → response.Holds .listener message →
          message.MentionsListed route →
            let next := exchange.move step
            route ∈ next.wanted .routeConfiguration ∧
              Driven exchange next
                [requestFor .routeConfiguration (next.wanted .routeConfiguration)] := by
  refine ⟨fun message => ?_, ?_⟩
  · have found (route : String) :
        route ∈ (Resource.Listener.ofMessage message).routeNames ↔
          message.MentionsListed route :=
      Resource.Listener.mem_routeNames_iff_mentionsListed
    refine ⟨found, ?_⟩
    simp only [found]
    exact Schema.Listener.all_mentions_iff fun _ listed => listed
  · obtain ⟨started, isStarted, initially⟩ := agreeing_start config
    refine ⟨started, isStarted, ?_⟩
    intro exchange
    have wanted (route : String) : route ∈ exchange.wanted .routeConfiguration ↔
        ∃ response ∈ started.handed steps, ∃ message, response.Holds .listener message ∧
          message.MentionsListed route := by
      have nothing : started.wanted .routeConfiguration = [] := by
        cases isStarted
        rfl
      rw [initially.mem_wanted_moves external, nothing]
      simp only [List.not_mem_nil, false_or, Response.refersTo_routes_iff]
    refine ⟨fun response handed message holds => ?_, ?_⟩
    · have listed (route : String) (mentions : message.MentionsListed route) :
          route ∈ exchange.wanted .routeConfiguration :=
        (wanted route).mpr ⟨response, handed, message, holds, mentions⟩
      refine ⟨listed, ?_⟩
      rw [Schema.Listener.all_mentions_iff listed]
      simp only [wanted]
    · intro step own response message route handed holds mentions next
      have refers := Response.refersTo_routes_iff.mpr ⟨message, holds, mentions⟩
      have cascaded := (initially.moves external).cascaded own
      exact ⟨(cascaded.wanted _ _).mpr (.inr ⟨response, handed, refers⟩),
        (cascaded.requested response _ _ handed refers).1⟩

/-- A listener mentions one route behind another filter of its second chain and again in its default
chain, and another route in its API listener. Both are subscribed to. -/
theorem routes_at_three_places_are_subscribed :
    let config : ClientConfig :=
      ⟨⟨none, "control:15010", "", none⟩, ⟨"n", "mesh", "client", "1"⟩, 10000, []⟩
    let manager (route : String) : Schema.Any :=
      .pack Schema.HttpConnectionManager.url
        ({ routes := some (.rds ⟨route⟩) } : Schema.HttpConnectionManager)
    let chain : Schema.FilterChain :=
      { filters := [{ name := "other" }, { config := some (.typed (manager "r")) }] }
    let listener : Schema.Listener :=
      { name := "l", filterChains := [{}, chain], apiListener := some ⟨some (manager "a")⟩,
        defaultFilterChain := some { filters := [{ config := some (.typed (manager "r")) }] } }
    let response : Response :=
      ⟨ResourceType.listener.url, "1", "n1", [ResourceType.listener.pack listener]⟩
    let steps : List Move := [.start 0, .perform (.respond response none)]
    (∀ step ∈ steps, step.External) ∧ response.Holds .listener listener ∧
      ∃ started, start true config = .ok started ∧
        let next := (started.moves steps).move (.read 0)
        next.wanted .routeConfiguration = ["a", "r"] ∧
          (∀ route, listener.Mentions route → route ∈ next.wanted .routeConfiguration) ∧
          Driven (started.moves steps) next [requestFor .routeConfiguration ["a", "r"]] := by
  intro config manager chain listener response steps
  have external : ∀ step ∈ steps ++ [.read 0], step.External := by
    simpa [steps, Move.External] using Operation.External.plain rfl
  have holds : response.Holds .listener listener :=
    ⟨rfl, _, List.mem_cons_self, rfl, by decide +kernel⟩
  obtain ⟨started, isStarted, observed⟩ : ∃ started, start true config = .ok started ∧
      ((started.moves steps).handed? (.read 0), started.handed (steps ++ [.read 0]),
        ((started.moves steps).move (.read 0)).wanted .routeConfiguration) =
          (some response, [response], ["a", "r"]) :=
    exists_of_seen (by decide +kernel)
  simp only [Prod.mk.injEq] at observed
  obtain ⟨isHanded, handed, names⟩ := observed
  have everywhere (route : String) (byDefault : listener.MentionsByDefault route) :
      listener.MentionsListed route := by
    obtain ⟨_, present, filter, inside, packed, typed, discovers⟩ := byDefault
    cases present
    rw [List.mem_singleton.mp inside] at typed
    cases typed
    exact .inl ⟨chain, List.mem_cons_of_mem _ List.mem_cons_self,
      { config := some (.typed (manager "r")) }, List.mem_cons_of_mem _ List.mem_cons_self, _, rfl,
      discovers⟩
  refine ⟨fun step inside => external step (List.mem_append_left _ inside), holds, started,
    isStarted, names, ?_, ?_⟩
  · obtain ⟨-, first, isFirst, subscribed, -⟩ :=
      routes_of_listed_chains_are_subscribed config (steps ++ [.read 0]) external
    cases isStarted.symm.trans isFirst
    have member : response ∈ started.handed (steps ++ [.read 0]) := by
      rw [handed]
      exact List.mem_cons_self
    exact (subscribed response member listener holds).2.mpr fun route byDefault =>
      ⟨response, member, listener, holds, everywhere route byDefault⟩
  · obtain ⟨-, first, isFirst, -, requested⟩ := routes_of_listed_chains_are_subscribed config steps
      fun step inside => external step (List.mem_append_left _ inside)
    cases isStarted.symm.trans isFirst
    have mentions : listener.MentionsListed "a" :=
      .inr ⟨_, rfl, by decide, rfl, { routes := some (.rds ⟨"a"⟩) }, by decide +kernel, rfl⟩
    rw [← names]
    exact (requested (.read 0) trivial response listener "a" isHanded holds mentions).2

/-- A route that only the default chain mentions is not found and not subscribed to, although the
listener was handed over. -/
theorem default_chain_route_is_not_subscribed :
    let config : ClientConfig :=
      ⟨⟨none, "control:15010", "", none⟩, ⟨"n", "mesh", "client", "1"⟩, 10000, []⟩
    let manager : Schema.HttpConnectionManager := { routes := some (.rds ⟨"r"⟩) }
    let filter : Schema.Filter :=
      { config := some (.typed (.pack Schema.HttpConnectionManager.url manager)) }
    let listener : Schema.Listener :=
      { name := "l", defaultFilterChain := some { filters := [filter] } }
    let response : Response :=
      ⟨ResourceType.listener.url, "1", "n1", [ResourceType.listener.pack listener]⟩
    let steps : List Move := [.start 0, .perform (.respond response none), .read 0]
    listener.Mentions "r" ∧ (Resource.Listener.ofMessage listener).routeNames = .empty ∧
      response.Holds .listener listener ∧
      ∃ started, start true config = .ok started ∧ started.handed steps = [response] ∧
        (started.moves steps).wanted .routeConfiguration = [] := by
  intro config manager filter listener response steps
  have discovers : (Schema.Any.pack Schema.HttpConnectionManager.url manager).Discovers "r" :=
    ⟨by decide, rfl, manager, by decide +kernel, rfl⟩
  obtain ⟨started, isStarted, observed⟩ : ∃ started, start true config = .ok started ∧
      (started.handed steps, (started.moves steps).wanted .routeConfiguration) =
        ([response], []) :=
    exists_of_seen (by decide +kernel)
  obtain ⟨handed, wanted⟩ := Prod.mk.inj observed
  exact ⟨.defaultChain rfl ⟨filter, List.mem_cons_self, _, rfl, discovers⟩, by decide +kernel,
    ⟨rfl, _, List.mem_cons_self, rfl, by decide +kernel⟩, started, isStarted, handed, wanted⟩

end Exchange

end MeshDiscovery
