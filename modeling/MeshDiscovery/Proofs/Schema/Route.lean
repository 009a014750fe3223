import MeshDiscovery.Proofs.Wire.Restoring
import MeshDiscovery.Schema.ConnectionManager

namespace MeshDiscovery.Schema

open Wire.Message

instance : Restorable Blank where
  levels := 0
  restored _ := .nil

instance : Restorable RegexMatcher where
  levels := 0
  restored matcher := .nonemptyText 2 RegexMatcher.mk matcher.regex

instance : Restorable TypedExtensionConfig where
  levels := 0
  restored config := .nonemptyText 1 TypedExtensionConfig.mk config.name

instance : Restorable RouteMatch where
  levels := 1
  restored := by
    intro ⟨path⟩
    cases path with
    | none => exact .nil
    | some path =>
      cases path with
      | pathPrefix text => exact .text 1 (fun text => RouteMatch.mk (some (.pathPrefix text))) text
      | path text => exact .text 2 (fun text => RouteMatch.mk (some (.path text))) text
      | safeRegex matcher =>
        exact .message 10 (fun inner => RouteMatch.mk (some (.safeRegex inner))) matcher
      | connect matcher =>
        exact .message 12 (fun inner => RouteMatch.mk (some (.connect inner))) matcher
      | separatedPrefix text =>
        exact .text 14 (fun text => RouteMatch.mk (some (.separatedPrefix text))) text
      | matchPolicy config =>
        exact .message 15 (fun inner => RouteMatch.mk (some (.matchPolicy inner))) config

instance : Restorable ClusterWeight where
  levels := 0
  restored weight := .nonemptyText 1 ClusterWeight.mk weight.name

instance : Restorable WeightedCluster where
  levels := 1
  restored weighted := .repeatedMessage 1 WeightedCluster.mk weighted.clusters

instance : Restorable RouteAction where
  levels := 2
  restored := by
    intro ⟨cluster⟩
    cases cluster with
    | none => exact .nil
    | some cluster =>
      cases cluster with
      | cluster name => exact .text 1 (fun text => RouteAction.mk (some (.cluster text))) name
      | clusterHeader header =>
        exact .text 2 (fun text => RouteAction.mk (some (.clusterHeader text))) header
      | weightedClusters clusters =>
        exact .message 3 (fun inner => RouteAction.mk (some (.weightedClusters inner))) clusters
      | plugin name => exact .text 37 (fun text => RouteAction.mk (some (.plugin text))) name
      | inlinePlugin config =>
        exact .message 39 (fun inner => RouteAction.mk (some (.inlinePlugin inner))) config

instance : Restorable RedirectAction where
  levels := 0
  restored action := .nonemptyText 1 RedirectAction.mk action.hostRedirect

instance : Restorable DirectResponseAction where
  levels := 0
  restored action := .nonzeroWord32 1 DirectResponseAction.mk action.status

private theorem Route.merges_action (condition : Option RouteMatch) (action : Option Action) :
    Merges 3 (Route.mk "" condition none) (action.map Route.actionField).toList
      (Route.mk "" condition action) := by
  cases action with
  | none => exact .nil
  | some action =>
    cases action with
    | route action =>
      exact .message 2 (fun inner => Route.mk "" condition (some (.route inner))) action
    | redirect action =>
      exact .message 3 (fun inner => Route.mk "" condition (some (.redirect inner))) action
    | directResponse action =>
      exact .message 7 (fun inner => Route.mk "" condition (some (.directResponse inner))) action
    | filterAction action =>
      exact .message 17 (fun inner => Route.mk "" condition (some (.filterAction inner))) action
    | nonForwarding action =>
      exact .message 18 (fun inner => Route.mk "" condition (some (.nonForwarding inner))) action

instance : Restorable Route where
  levels := 3
  restored route :=
    .append (.append (.optionalMessage 1 (Route.mk "" · none) route.condition)
      (Route.merges_action route.condition route.action))
      (.nonemptyText 14 (Route.mk · route.condition route.action) route.name)

instance : Restorable VirtualHost where
  levels := 4
  restored host :=
    .append (.append (.nonemptyText 1 (VirtualHost.mk · [] []) host.name)
      (.repeatedText 2 (VirtualHost.mk host.name · []) host.domains))
      (.repeatedMessage 3 (VirtualHost.mk host.name host.domains) host.routes)

instance : Restorable RouteConfiguration where
  levels := 5
  restored config :=
    .append (.nonemptyText 1 (RouteConfiguration.mk · []) config.name)
      (.repeatedMessage 2 (RouteConfiguration.mk config.name) config.virtualHosts)

instance : Restorable Rds where
  levels := 0
  restored rds := .nonemptyText 2 Rds.mk rds.routeConfigName

instance : Restorable ScopedRoutes where
  levels := 0
  restored scopes := .nonemptyText 1 ScopedRoutes.mk scopes.name

instance : Restorable HttpConnectionManager where
  levels := 6
  restored := by
    intro ⟨routes⟩
    cases routes with
    | none => exact .nil
    | some routes =>
      cases routes with
      | rds rds => exact .message 3 (fun inner => HttpConnectionManager.mk (some (.rds inner))) rds
      | routeConfig config =>
        exact .message 4 (fun inner => HttpConnectionManager.mk (some (.routeConfig inner))) config
      | scopedRoutes scopes =>
        exact .message 31 (fun inner => HttpConnectionManager.mk (some (.scopedRoutes inner))) scopes

end MeshDiscovery.Schema
