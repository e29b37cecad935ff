import ExampleBuild.Path

namespace ExampleBuild

/-! A search path lists the directories in which programs are looked up, with colons
between them. It has no way to write a directory whose own path holds a colon. -/

namespace SearchPath

def colon : UInt8 := 58

def directories (value : ByteText) : List Path := value.separated colon

def ofDirectories? (directories : List Path) : Option ByteText :=
  if directories.any fun directory => directory.contains colon then none
  else some (ByteText.joined colon directories)

end SearchPath

end ExampleBuild
