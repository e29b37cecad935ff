import ExampleBuild.Path
import ExampleBuild.Platform

namespace ExampleBuild

/-! What a run is told to do: which compiler to use, what to pass on to every build,
and whose entries to build. -/

/-- The compiler is the name of a program, to be looked up in the search path, or a
path to one. -/
structure Config where
  compiler : String
  extraArguments : List String
  directory : Path
  platform : Platform

namespace Config

def defaultCompiler : String := "cx"

def ofDirectory (platform : Platform) (directory : Path) : Config where
  compiler := defaultCompiler
  extraArguments := []
  directory := directory
  platform := platform

def withCompiler (config : Config) (compiler : String) : Config :=
  { config with compiler }

def withExtraArguments (config : Config) (extraArguments : List String) : Config :=
  { config with extraArguments }

def withPlatform (config : Config) (platform : Platform) : Config :=
  { config with platform }

end Config

end ExampleBuild
