import MeshDiscovery.Schema.Any

namespace MeshDiscovery.Schema

open Wire

/-- Where the configuration of a filter comes from. -/
inductive FilterConfig where
  | typed (config : Any)
  | discovered (source : Blank)
  deriving DecidableEq, Repr

structure Filter where
  name : String := ""
  config : Option FilterConfig := none
  deriving DecidableEq, Repr, Inhabited

/-- The packed configuration that a further one is merged into. -/
def Filter.currentTyped (filter : Filter) : Any :=
  match filter.config with
  | some (.typed config) => config
  | _ => {}

instance : Message Filter where
  empty := {}
  merge budget filter field :=
    match field.number with
    | 1 => field.payload.text.map fun text => { filter with name := text }
    | 4 => (field.payload.nested budget filter.currentTyped).map fun config =>
        { filter with config := some (.typed config) }
    | 5 => (field.payload.nested budget ({} : Blank)).map fun source =>
        { filter with config := some (.discovered source) }
    | _ => field.skip budget filter
  fields filter :=
    Field.ofNonemptyText 1 filter.name ++
      match filter.config with
      | none => []
      | some (.typed config) => [Field.ofMessage 4 config]
      | some (.discovered source) => [Field.ofMessage 5 source]

/-- A chain of filters. The condition under which it is chosen is read and forgotten. -/
structure FilterChain where
  filters : List Filter := []
  name : String := ""
  deriving DecidableEq, Repr, Inhabited

instance : Message FilterChain where
  empty := {}
  merge budget chain field :=
    match field.number with
    | 1 => (field.payload.nested budget ({} : Blank)).map fun _ => chain
    | 3 => (field.payload.nested budget ({} : Filter)).map fun filter =>
        { chain with filters := chain.filters ++ [filter] }
    | 7 => field.payload.text.map fun text => { chain with name := text }
    | _ => field.skip budget chain
  fields chain := chain.filters.map (Field.ofMessage 3) ++ Field.ofNonemptyText 7 chain.name

/-- The configuration of a listener that is used without an address. -/
structure ApiListener where
  config : Option Any := none
  deriving DecidableEq, Repr, Inhabited

instance : Message ApiListener where
  empty := {}
  merge budget api field :=
    match field.number with
    | 1 => (field.payload.nested budget (api.config.getD {})).map fun config => ⟨some config⟩
    | _ => field.skip budget api
  fields api := (api.config.map (Field.ofMessage 1)).toList

structure Listener where
  name : String := ""
  filterChains : List FilterChain := []
  apiListener : Option ApiListener := none
  defaultFilterChain : Option FilterChain := none
  deriving DecidableEq, Repr, Inhabited

instance : Message Listener where
  empty := {}
  merge budget listener field :=
    match field.number with
    | 1 => field.payload.text.map fun text => { listener with name := text }
    | 3 => (field.payload.nested budget ({} : FilterChain)).map fun chain =>
        { listener with filterChains := listener.filterChains ++ [chain] }
    | 19 => (field.payload.nested budget (listener.apiListener.getD {})).map fun api =>
        { listener with apiListener := some api }
    | 25 => (field.payload.nested budget (listener.defaultFilterChain.getD {})).map fun chain =>
        { listener with defaultFilterChain := some chain }
    | _ => field.skip budget listener
  fields listener :=
    Field.ofNonemptyText 1 listener.name ++ listener.filterChains.map (Field.ofMessage 3)
      ++ (listener.apiListener.map (Field.ofMessage 19)).toList
      ++ (listener.defaultFilterChain.map (Field.ofMessage 25)).toList

end MeshDiscovery.Schema
