import InsightRelay.Dictionary
import InsightRelay.Error
import InsightRelay.Package
import InsightRelay.Text.Blank

/-! Manifests: the packages that a scanner found in one file, and the records they give rise to. -/

namespace InsightRelay

/-- An entry of a manifest. -/
structure ManifestPackage where
  name : String
  version : String
  insights : Option Insights
deriving DecidableEq, Repr

/-- The packages found in one file, and which packages each of them depends on. -/
structure Manifest where
  ecosystem : Ecosystem
  path : String
  displayPath : Option String
  packages : List ManifestPackage
  /-- The dependencies of each package by its graph key, or nothing when they are not known. -/
  dependencyGraph : Option (Dictionary (List PackageId))
deriving DecidableEq

namespace Manifest

/-- Where the packages of the manifest come from. -/
def origin (manifest : Manifest) : ManifestOrigin where
  ecosystem := manifest.ecosystem
  path := manifest.path
  displayPath := manifest.displayPath

/-- The key of a package in the dependency graph. -/
def graphKey (name version : String) : String :=
  name ++ "@" ++ version

/-- The dependencies of a package: none when the graph has no entry for it, and unknown when there is
no graph. -/
def dependenciesOf (manifest : Manifest) (package : ManifestPackage) : Option (List PackageId) :=
  manifest.dependencyGraph.map fun graph =>
    (graph.get? (graphKey package.name package.version)).getD []

/-- The record of the entry at a position, unless its name is blank. -/
def record (manifest : Manifest) (package : ManifestPackage) (position : Nat) :
    Except RelayError PackageRecord :=
  -- The other entries are not touched by it: each has an error or a record of its own.
  if isBlankText package.name then
    .error (.invalidPackage manifest.path ("package #" ++ toString position ++ " has an empty name"))
  else .ok {
    origin := manifest.origin
    name := package.name
    version := package.version
    dependencies := manifest.dependenciesOf package
    insights := package.insights
  }

/-- One record or one error for every entry, in the order of the entries. -/
def records (manifest : Manifest) : List (Except RelayError PackageRecord) :=
  manifest.packages.zipIdx.map fun (package, position) => manifest.record package position

end Manifest

/-- What is brought to a relay: where the packages come from, and one record or one error for every
entry. -/
structure Source where
  origin : ManifestOrigin
  records : List (Except RelayError PackageRecord)

/-- A manifest as it is brought to a relay. -/
def Manifest.source (manifest : Manifest) : Source where
  origin := manifest.origin
  records := manifest.records

/-- The dependencies of a record, or the error that they are not known. -/
def PackageRecord.knownDependencies (record : PackageRecord) : Except RelayError (List PackageId) :=
  match record.dependencies with
  | some packages => .ok packages
  | none => .error (.dependenciesUnavailable record.origin.path)

end InsightRelay
