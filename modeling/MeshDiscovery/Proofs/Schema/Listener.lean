import MeshDiscovery.Proofs.Schema.Route
import MeshDiscovery.Schema.Listener

namespace MeshDiscovery.Schema

open Wire.Message

instance : Restorable Any where
  levels := 0
  restored any :=
    .append (.nonemptyText 1 (Any.mk · []) any.typeUrl)
      (.nonemptyBytes 2 (Any.mk any.typeUrl) any.value)

instance : Restorable Filter where
  levels := 1
  restored := by
    intro ⟨name, config⟩
    refine .append (.nonemptyText 1 (Filter.mk · none) name) ?_
    cases config with
    | none => exact .nil
    | some config =>
      cases config with
      | typed config => exact .message 4 (fun inner => Filter.mk name (some (.typed inner))) config
      | discovered source =>
        exact .message 5 (fun inner => Filter.mk name (some (.discovered inner))) source

instance : Restorable FilterChain where
  levels := 2
  restored chain :=
    .append (.repeatedMessage 3 (FilterChain.mk · "") chain.filters)
      (.nonemptyText 7 (FilterChain.mk chain.filters) chain.name)

instance : Restorable ApiListener where
  levels := 1
  restored api := .optionalMessage 1 ApiListener.mk api.config

instance : Restorable Listener where
  levels := 3
  restored := by
    intro ⟨name, chains, api, default⟩
    exact .append (.append (.append (.nonemptyText 1 (Listener.mk · [] none none) name)
      (.repeatedMessage 3 (Listener.mk name · none none) chains))
      (.optionalMessage 19 (Listener.mk name chains · none) api))
      (.optionalMessage 25 (Listener.mk name chains api) default)

end MeshDiscovery.Schema
