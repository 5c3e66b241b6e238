import Rclcpp.Basic
import Rclcpp.Utilities.SleepFor
import Rclcpp.Utilities.Station
import Rclcpp.Utilities.Indicators
import Rclcpp.Utilities.SignalChain
import Rclcpp.Utilities.Interleaving
import Rclcpp.Utilities.SleepRefinement
import Rclcpp.Utilities.Sleepers
import Rclcpp.Node.Registry
import Rclcpp.Node.Create
import Rclcpp.Node.CreateSequence
