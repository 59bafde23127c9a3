import Cython.JediRecursion.Basic
import Cython.JediRecursion.StmtGuard
import Cython.JediRecursion.StmtRuns
import Cython.JediRecursion.ExecGuard
import Cython.JediRecursion.ExecRuns
import Cython.JediRecursion.Decorators
import Cython.JediRecursion.StmtEval
import Cython.JediRecursion.Evaluation
import Cython.JediRecursion.Lifetime
import Cython.CythonOptions.Python
import Cython.CythonOptions.Directives
import Cython.CythonOptions.Parse
import Cython.CythonOptions.ParseRuns
import Cython.CythonOptions.Settings
import Cython.CythonOptions.Values
import Cython.CythonOptions.WriteBack
import Cython.CythonBuild.ParseArgs
