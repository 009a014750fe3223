namespace MeshDiscovery.CommandLine

inductive Setting where
  | logPretty
  | server
  | nodeId
  | nodeCluster
  | metadata
  | watchRoute
  | watchCluster
  | metricsAddr
  | summaryInterval
  | help
  | version
  deriving DecidableEq, Repr

namespace Setting

def all : List Setting :=
  [logPretty, server, nodeId, nodeCluster, metadata, watchRoute, watchCluster, metricsAddr,
    summaryInterval, help, version]

def longName : Setting → String
  | logPretty => "log-pretty"
  | server => "server"
  | nodeId => "node-id"
  | nodeCluster => "node-cluster"
  | metadata => "metadata"
  | watchRoute => "watch-route"
  | watchCluster => "watch-cluster"
  | metricsAddr => "metrics-addr"
  | summaryInterval => "summary-interval"
  | help => "help"
  | version => "version"

/-- The letter of an option after one dash, if it has one. -/
def letter? : Setting → Option Char
  | server => some 's'
  | help => some 'h'
  | version => some 'V'
  | _ => none

def takesValue : Setting → Bool
  | logPretty | help | version => false
  | _ => true

/-- An option that may be given more than once. -/
def repeats : Setting → Bool
  | metadata | watchRoute | watchCluster => true
  | _ => false

/-- The option with a long name, which has to be given in full. -/
def ofLongName? (name : String) : Option Setting :=
  all.find? fun setting => setting.longName = name

def ofLetter? (letter : Char) : Option Setting :=
  all.find? fun setting => setting.letter? = some letter

theorem mem_all (setting : Setting) : setting ∈ all := by
  cases setting <;> decide

theorem ofLongName?_longName (setting : Setting) : ofLongName? setting.longName = some setting := by
  cases setting <;> decide +kernel

end Setting

end MeshDiscovery.CommandLine
