import StatusBoard.Gateway.Script
import StatusBoard.Main
import StatusBoard.Proofs.Board.Calls
import StatusBoard.Proofs.Board.Columns
import StatusBoard.Proofs.Board.Current
import StatusBoard.Proofs.Board.Data
import StatusBoard.Proofs.Board.Ids
import StatusBoard.Proofs.Board.Isolation
import StatusBoard.Proofs.Board.Likeness
import StatusBoard.Proofs.Board.Lines
import StatusBoard.Proofs.Board.Planning
import StatusBoard.Proofs.Config.Checks
import StatusBoard.Proofs.Config.Endpoint
import StatusBoard.Proofs.Config.Spelling
import StatusBoard.Proofs.Gateway.Classes
import StatusBoard.Proofs.Poller.Loop
import StatusBoard.Proofs.Poller.Measurements
import StatusBoard.Proofs.Plan.Decisions
import StatusBoard.Proofs.Program.OneFetch
import StatusBoard.Proofs.Program.Requests
import StatusBoard.Proofs.Program.Settings
import StatusBoard.Proofs.Program.Stopping
import StatusBoard.Proofs.Server.Readers
import StatusBoard.Proofs.Snapshot.Edits
import StatusBoard.Proofs.Snapshot.Status
import StatusBoard.Proofs.Url.Directory
import StatusBoard.Server.Session
