import AddressSpace.Crawl
import AddressSpace.Crawl.Flatten
import AddressSpace.NamespaceInformation
import AddressSpace.Substitution

namespace AddressSpace

structure TypeLibrary where
  types : TypeMap := .empty
  registry : Std.TreeMap String NodeId := ∅
  infos : List NamespaceInformation := []

namespace TypeLibrary

def empty : TypeLibrary := {}

instance : Inhabited TypeLibrary := ⟨empty⟩

def stage (arena : Arena) (uris : List String) : TypeMap :=
  uris.foldl (fun staged uri => (arena.build uri staged).2) .empty

def ofArena (arena : Arena) (uris : List String) : TypeLibrary where
  types := (stage arena uris).substitute arena.registry
  registry := arena.registry
  infos := uris.map arena.namespaceInformation

/-- The namespaces whose types are collected: all that have types, or those that are expected and
known. -/
def targets (arena : Arena) (namespaces : NamespaceTable) (expected : List String) : List String :=
  if expected.isEmpty then arena.typeNamespaces
  else
    let known := namespaces.toList
    expected.filter (known.contains ·)

end TypeLibrary

def Crawling.fromEmpty {σ : Type} (crawl : Crawling σ Unit) : Exchange σ Arena := fun server =>
  match crawl { arena := .empty, server } with
  | .ok _ found => .ok found.arena found.server
  | .error cause found => .error cause found.server

def Browser.crawlTypes {σ : Type} (browser : Browser σ) (maxDepth : Nat) : Exchange σ Arena :=
  Crawling.fromEmpty do
    browser.discover maxDepth (Standard.node Standard.baseDataVariableType) true
    browser.discover maxDepth (Standard.node Standard.baseObjectType) false

end AddressSpace
