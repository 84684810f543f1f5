/-!
# Ecosystems

The package ecosystems and the file names by which their manifests are known.
-/

namespace ManifestSarif

/-- The domain of package management that a manifest belongs to. -/
inductive Ecosystem where
  | maven
  | gradle
  | golang
  | npm
  | pypi
  | docker
deriving DecidableEq, Repr

namespace Ecosystem

/-- The word for the ecosystem. -/
def name : Ecosystem → String
  | maven => "maven"
  | gradle => "gradle"
  | golang => "golang"
  | npm => "npm"
  | pypi => "pypi"
  | docker => "docker"

/-- All ecosystems. -/
def all : List Ecosystem := [maven, gradle, golang, npm, pypi, docker]

/-- The ecosystem that a word names. -/
def ofName? (name : String) : Option Ecosystem :=
  all.find? fun e => e.name = name

/-- The known manifest file names, in the order in which a directory is searched for them. -/
def manifests : List (String × Ecosystem) :=
  [("pom.xml", maven),
   ("build.gradle", gradle),
   ("go.mod", golang),
   ("package.json", npm),
   ("requirements.txt", pypi),
   ("Dockerfile", docker),
   ("Containerfile", docker)]

/-- The ecosystem whose manifests have this file name. -/
def ofFileName? (name : String) : Option Ecosystem :=
  manifests.lookup name

end Ecosystem

end ManifestSarif
