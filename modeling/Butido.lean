import Butido.Util.BTreeMap
import Butido.Util.Except
import Butido.Package.Tree
import Butido.Package.TreeQuery
import Butido.Package.TreeBuild
import Butido.Package.TreeUnfold
import Butido.Package.TreeRun
import Butido.Package.TreePrint
import Butido.Job.Runnable
import Butido.Filestore.Staging
import Butido.Db.Query
import Butido.Commands.Db
import Butido.Commands.DbSubmit
import Butido.Commands.DbJob
import Butido.Commands.Endpoint
