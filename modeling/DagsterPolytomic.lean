import DagsterPolytomic.PyDict
import DagsterPolytomic.Workspace
import DagsterPolytomic.FetchState
import DagsterPolytomic.Requests
import DagsterPolytomic.AnyClient
import DagsterPolytomic.ClientProperty
